import Ftp.Config
import Ftp.Path
import Ftp.Program
import Ftp.Session

/-!
# Setting

What the commands of every session share, and the steps that most of them take: answering the
client, and finding the server path that the client names.
-/

namespace Ftp

/-- The configuration of the server and its accounts. -/
structure Setting where
  config : Config
  accounts : Registry

/-- Why a path or a directory cannot be used. -/
inductive PathError where
  | noAccount
  | pathTooLong (limit : Nat)
  | notFound (path : Text)
  | notADirectory (path : Text)
  deriving DecidableEq, Repr

def PathError.message : PathError → String
  | .noAccount => "session has no account"
  | .pathTooLong limit => s!"path exceeds {limit} characters"
  | .notFound path => s!"directory not found: {String.ofList path}"
  | .notADirectory path => s!"not a directory: {String.ofList path}"

/-- What became of a command. -/
inductive Status where
  | success
  /-- The command was answered with an error. -/
  | failure (text : Text)
  /-- The session is to be closed. -/
  | close
  deriving DecidableEq, Repr

/-- Answers the client of the session. -/
def Session.reply (session : Session) (reply : Reply) : Program Unit :=
  .request (.reply session.control reply)

/-- Answers with one line. -/
def Session.say (session : Session) (code : Nat) (text : Text) : Program Unit :=
  session.reply (.line code text)

/-- Answers with an error, which is also the status. -/
def Session.fail (session : Session) (code : Nat) (text : Text) : Program (Status × Session) := do
  session.say code text
  return (.failure text, session)

/-- Answers that the command has succeeded. -/
def Session.succeed (session : Session) (code : Nat) (text : Text) :
    Program (Status × Session) := do
  session.say code text
  return (.success, session)

namespace Setting

variable (setting : Setting) (session : Session)

/-- The root directory of the session's account. -/
def root : Except PathError Text :=
  match session.account.bind setting.accounts.root? with
  | some root => .ok root
  | none => .error .noAccount

/-- The session's account. -/
def account? : Option Account :=
  session.account.bind setting.accounts.get?

/-- The server path of the file that `path` names for the session. -/
def resolve (path : Text) (normalize : Bool) : Except PathError Text :=
  match setting.root session with
  | .error error => .error error
  | .ok root =>
    let resolved := Path.resolve root session.workingDir path normalize
    if setting.config.maxPathLength.toNat < Utf8.length resolved then
      .error (.pathTooLong setting.config.maxPathLength.toNat)
    else .ok resolved

/-- Goes on with the server path that `path` names, or answers that there is none. -/
def withPath (path : Text) (next : Text → Program (Status × Session)) :
    Program (Status × Session) :=
  match setting.resolve session path true with
  | .ok resolved => next resolved
  | .error _ => session.fail 550 "Invalid path."

end Setting

/-- The virtual path of the directory that `target` names in `workingDir`, if it is one. -/
def Path.changeDirectory (root workingDir target : Text) : Program (Except PathError Text) := do
  let newDir := Path.virtual workingDir target
  match ← .request (.stat (Path.resolve root workingDir target true)) with
  | .ok info => return if info.kind = .dir then .ok newDir else .error (.notADirectory newDir)
  | .error _ => return .error (.notFound newDir)

end Ftp
