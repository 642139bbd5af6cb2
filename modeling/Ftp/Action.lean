import Ftp.Command
import Ftp.Command.Port
import Ftp.Listing
import Ftp.Transfer

/-!
# Actions

What each command does once it may run. An action answers the client itself; its status tells
whether the command succeeded and whether the session is to be closed.
-/

namespace Ftp.Action

variable (setting : Setting) (session : Session)

/-! ## Login -/

/-- Remembers the account for the password to come. That a name is unknown shows only then. -/
def user (name : Text) : Program (Status × Session) :=
  let session := { session with authenticated := false, account := setting.accounts.find? name }
  session.succeed 331 "Please specify the password."

/-- Forgets the account. -/
def refuseLogin : Program (Status × Session) :=
  let session := { session with account := none }
  session.fail 530 "Login incorrect."

/-- Logs the session in if the password is that of the remembered account. -/
def pass (password : Text) : Program (Status × Session) :=
  match session.account with
  | some id =>
    if setting.accounts.acceptsPassword id password then
      session.authenticate.succeed 230 "Login successful."
    else refuseLogin session
  | none => refuseLogin session

/-! ## The session -/

def quit : Program (Status × Session) := do
  session.say 221 "Goodbye."
  return (.close, session)

/-- Gives up the transfer, if there is one. -/
def abor : Program (Status × Session) := do
  let session ← Transfer.close session
  session.succeed 226 "ABOR successful."

/-- A feature as it is announced. -/
def featureText : Command → Text
  | .mlst => "MLST type*;size*;modify*;perm*"
  | command => command.verb

def feat : Program (Status × Session) := do
  let features := Command.features setting.config.extensions
  session.reply (.block 211 "Features:" (features.map featureText) "End")
  return (.success, session)

/-- Sets the type that downloads are announced with: `I` for binary, `A` for ASCII. -/
def type (argument : Text) : Program (Status × Session) :=
  match argument.head?.map Char.toUpper with
  | some 'I' =>
    let session := { session with binary := true }
    session.succeed 200 "Switching to Binary mode."
  | some 'A' =>
    let session := { session with binary := false }
    session.succeed 200 "Switching to ASCII mode."
  | _ => session.fail 504 "Unrecognised TYPE command."

/-- There is no structure but that of files. -/
def stru (argument : Text) : Program (Status × Session) :=
  match argument.head?.map Char.toUpper with
  | some 'F' => session.succeed 200 "Structure set to F."
  | _ => session.fail 504 "Bad STRU command."

/-! ## Data connections -/

/-- Names the port to open data connections to, in place of a passive listener. -/
def port (argument : Text) : Program (Status × Session) :=
  match Command.dataPort? argument with
  | none => session.fail 501 "Illegal PORT command."
  | some number => do
    let session ← DataChannel.closePassive session
    let session := { session with remoteDataPort := number, passive := false }
    session.succeed 200 "PORT command successful. Consider using PASV."

/-- Opens a passive listener and announces it. -/
def pasv : Program (Status × Session) := do
  match ← DataChannel.openPassive setting session with
  | (.ok endpoint, session) =>
    let session := { session with passive := true }
    session.succeed 227 (Reply.passiveAddress endpoint)
  | (.error error, session) => session.fail error.replyCode "Cannot open passive connection."

/-- Lists the working directory over a data connection, whatever the argument. -/
def listing (format : ListFormat) : Program (Status × Session) :=
  setting.withPath session session.workingDir fun path =>
    DataChannel.withConnection setting session fun socket => do
      Listing.send setting session socket path format
      .request (.closeSocket socket)
      return (.success, session)

/-! ## Transfers -/

/-- Begins a transfer and takes its first step at once. -/
def transfer (transmission : Transmission) : Program (Status × Session) :=
  match Transfer.start session transmission with
  | .ok session => do
    let (_, session) ← Transfer.step setting session
    return (.success, session)
  | .error error => do
    Transfer.release transmission
    session.fail error.replyCode "Transfer already in progress."

/-- Opens the file and begins the transfer with it, or gives the data connection up. -/
def transferFile (socket : Socket) (path : Text) (mode : OpenMode) (refusal : Text)
    (transmission : File → Transmission) : Program (Status × Session) := do
  match ← .request (.openFile path mode) with
  | .ok file => transfer setting session (transmission file)
  | .error _ =>
    .request (.closeSocket socket)
    session.fail 451 refusal

/-- Announces a download. -/
def openingText (name : Text) (size : Nat) : Text :=
  let mode := if session.binary then "BINARY".toList else "ASCII".toList
  "Opening ".toList ++ mode ++ " mode data connection for ".toList ++ name ++ " (".toList ++
    Decimal.digits size ++ " bytes).".toList

/-- Downloads a file of which the size is known. -/
def download (name path : Text) (size : Nat) : Program (Status × Session) :=
  DataChannel.withConnection setting session fun socket => do
    session.say 150 (openingText session name size)
    transferFile setting session socket path .read "Cannot open file." fun file =>
      .retrieving file socket size

/-- The name of the session's account, as the deployment is asked about it. -/
def accountName : Text :=
  match setting.account? session with
  | some account => account.name
  | none => []

/-- Downloads a regular file, unless the deployment refuses it. -/
def retr (name : Text) : Program (Status × Session) :=
  setting.withPath session name fun path => do
    match ← .request (.stat path) with
    | .error _ => session.fail 550 "Failed to open file."
    | .ok info =>
      if info.kind = .file then
        if ← .request (.mayRetrieve session.remote.ip (accountName setting session) path) then
          download setting session name path info.size
        else session.fail 550 "Failed to open file."
      else session.fail 550 "Failed to open file."

/-- Uploads a file. -/
def stor (name : Text) : Program (Status × Session) :=
  setting.withPath session name fun path =>
    DataChannel.withConnection setting session fun socket => do
      session.say 150 "Ok to send data."
      transferFile setting session socket path .write "Cannot create file." fun file =>
        .storing file socket

/-! ## Files and directories -/

/-- Answers by whether a change to the file system was made. -/
def concludeChange (outcome : Except IoError Unit) (success : Text) (code : Nat) (failure : Text) :
    Program (Status × Session) :=
  match outcome with
  | .ok () => session.succeed 250 success
  | .error _ => session.fail code failure

def dele (name : Text) : Program (Status × Session) :=
  setting.withPath session name fun path => do
    let outcome ← .request (.removeFile path)
    concludeChange session outcome "Delete operation successful." 450 "Delete operation failed."

def mkd (name : Text) : Program (Status × Session) :=
  setting.withPath session name fun path => do
    let outcome ← .request (.makeDir path)
    concludeChange session outcome "Directory created." 550 "Create directory operation failed."

def rmd (name : Text) : Program (Status × Session) :=
  setting.withPath session name fun path => do
    let outcome ← .request (.removeDir path)
    concludeChange session outcome "Directory removed." 550 "Remove directory operation failed."

def pwd : Program (Status × Session) := do
  session.reply (.quoted 257 session.workingDir)
  return (.success, session)

/-- Changes the working directory to a directory under the root. -/
def cwd (target : Text) : Program (Status × Session) :=
  setting.withPath session target fun _ =>
    match setting.root session with
    | .error _ => session.fail 550 "Failed to change directory."
    | .ok root => do
      match ← Path.changeDirectory root session.workingDir target with
      | .ok workingDir =>
        let session := { session with workingDir }
        session.succeed 250 "Directory successfully changed."
      | .error _ => session.fail 550 "Failed to change directory."

/-- The size of whatever the path names. -/
def size (name : Text) : Program (Status × Session) :=
  setting.withPath session name fun path => do
    match ← .request (.stat path) with
    | .ok info => session.succeed 213 (Decimal.digits info.size)
    | .error _ => session.fail 550 "Could not get file size."

def mdtm (name : Text) : Program (Status × Session) :=
  setting.withPath session name fun path => do
    match ← .request (.stat path) with
    | .ok info => session.succeed 213 info.modified.stamp
    | .error _ => session.fail 550 "Could not get file modification time."

/-- Tells the facts about one path, or about the working directory, on the control connection. -/
def mlst (name : Text) : Program (Status × Session) :=
  let target := if name = [] then session.workingDir else name
  setting.withPath session target fun path => do
    match ← .request (.stat path) with
    | .error _ => session.fail 550 "No such file or directory."
    | .ok info =>
      let shown := Path.virtual session.workingDir target
      session.reply (.block 250 ("Listing ".toList ++ shown) [Listing.factLine shown info] "End")
      return (.success, session)

end Action

/-- Runs a command with its argument, without asking whether it may run. -/
def Command.run (command : Command) (setting : Setting) (session : Session) (argument : Text) :
    Program (Status × Session) :=
  match command with
  | .user => Action.user setting session argument
  | .pass => Action.pass setting session argument
  | .syst => session.succeed 215 "UNIX Type: L8"
  | .port => Action.port session argument
  | .noop => session.succeed 200 "NOOP ok."
  | .quit => Action.quit session
  | .abor => Action.abor session
  | .feat => Action.feat setting session
  | .list => Action.listing setting session .long
  | .nlst => Action.listing setting session .names
  | .pwd | .xpwd => Action.pwd session
  | .type => Action.type session argument
  | .pasv => Action.pasv setting session
  | .cwd => Action.cwd setting session argument
  | .cdup => Action.cwd setting session ['.', '.']
  | .stru => Action.stru session argument
  | .retr => Action.retr setting session argument
  | .stor => Action.stor setting session argument
  | .dele => Action.dele setting session argument
  | .mkd | .xmkd => Action.mkd setting session argument
  | .rmd | .xrmd => Action.rmd setting session argument
  | .size => Action.size setting session argument
  | .mdtm => Action.mdtm setting session argument
  | .mlst => Action.mlst setting session argument
  | .mlsd => Action.listing setting session .facts

end Ftp
