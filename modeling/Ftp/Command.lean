import Ftp.Account.Rights
import Ftp.Text.Blank

/-!
# Commands

The commands of the protocol with the verbs that name them and the rules for running them. A command
line names the first command whose verb it begins with.
-/

namespace Ftp

inductive Command where
  | user | pass | syst | port | noop | quit | abor | feat | list | nlst | pwd | xpwd | type | pasv
  | cwd | cdup | stru | retr | stor | dele | mkd | xmkd | rmd | xrmd | size | mdtm | mlst | mlsd
  deriving DecidableEq, Repr

namespace Command

/-- Every command, in the order in which they are looked up. -/
def all : List Command :=
  [.user, .pass, .syst, .port, .noop, .quit, .abor, .feat, .list, .nlst, .pwd, .xpwd, .type, .pasv,
    .cwd, .cdup, .stru, .retr, .stor, .dele, .mkd, .xmkd, .rmd, .xrmd, .size, .mdtm, .mlst, .mlsd]

def verb : Command → Text
  | .user => "USER"
  | .pass => "PASS"
  | .syst => "SYST"
  | .port => "PORT"
  | .noop => "NOOP"
  | .quit => "QUIT"
  | .abor => "ABOR"
  | .feat => "FEAT"
  | .list => "LIST"
  | .nlst => "NLST"
  | .pwd => "PWD"
  | .xpwd => "XPWD"
  | .type => "TYPE"
  | .pasv => "PASV"
  | .cwd => "CWD"
  | .cdup => "CDUP"
  | .stru => "STRU"
  | .retr => "RETR"
  | .stor => "STOR"
  | .dele => "DELE"
  | .mkd => "MKD"
  | .xmkd => "XMKD"
  | .rmd => "RMD"
  | .xrmd => "XRMD"
  | .size => "SIZE"
  | .mdtm => "MDTM"
  | .mlst => "MLST"
  | .mlsd => "MLSD"

/-- The rights that the account must hold. -/
def rights : Command → Rights
  | .list | .nlst | .mlsd => { list := true }
  | .pwd | .retr | .size | .mdtm | .mlst => { read := true }
  | .xpwd | .cwd | .cdup => { dir := true }
  | .stor | .dele | .mkd | .xmkd | .rmd | .xrmd => { write := true }
  | _ => .empty

/-- The session must be logged in. -/
def needsLogin : Command → Bool
  | .user | .pass | .quit | .abor | .feat => false
  | _ => true

/-- The command may run while a transfer is going on. -/
def duringTransfer : Command → Bool
  | .quit | .abor => true
  | _ => false

/-- The command belongs to the extensions of RFC 3659. -/
def isExtension : Command → Bool
  | .size | .mdtm | .mlst | .mlsd => true
  | _ => false

/-- The command is announced as a feature. -/
def isFeature (command : Command) : Bool :=
  command.isExtension

/-- The commands that are available with or without the extensions. -/
def enabled (extensions : Bool) : List Command :=
  all.filter fun command => extensions || !command.isExtension

/-- The first available command whose verb begins the line. -/
def find? (line : Text) (extensions : Bool) : Option Command :=
  (enabled extensions).find? fun command => command.verb.isPrefixOf line

/-- The features that are available. -/
def features (extensions : Bool) : List Command :=
  (enabled extensions).filter isFeature

/-- The line with its first token in upper case. The token ends at white space; what follows it is
kept. -/
def upperVerb (line : Text) : Text :=
  Text.asciiUpper (line.takeWhile (!Text.isBlank ·)) ++ line.dropWhile (!Text.isBlank ·)

/-- What a line says after the verb of the command, without the blanks in front. -/
def argument (command : Command) (line : Text) : Text :=
  (line.drop command.verb.length).dropWhile Text.isPadding

end Command

end Ftp
