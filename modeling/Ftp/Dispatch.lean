import Ftp.Action

/-!
# Dispatch

Finds the command that a line names and decides whether it may run: the session must be logged in
and its account hold the rights, unless the command is open to everyone, and while a transfer is
going on only few commands are heard at all.
-/

namespace Ftp.Dispatch

/-- Whether a command may run. -/
inductive Verdict where
  | run
  | notLoggedIn
  | denied
  /-- Not heard, because a transfer is going on. -/
  | ignored
  deriving DecidableEq, Repr

/-- The session may act as its account requires. -/
def access (setting : Setting) (session : Session) (command : Command) : Verdict :=
  if command.needsLogin then
    match session.loggedIn? with
    | none => .notLoggedIn
    | some account => if setting.accounts.grants account command.rights then .run else .denied
  else .run

/-- Whether the session may run the command now. -/
def verdict (setting : Setting) (session : Session) (command : Command) : Verdict :=
  match access setting session command with
  | .run => if session.isTransferring ∧ ¬command.duringTransfer then .ignored else .run
  | refused => refused

/-- Notes that the session has been active. -/
def touch (session : Session) : Program Session := do
  let now ← .request .unixTime
  return { session with lastCommand := now }

/-- Serves one command line, given without its end. -/
def dispatch (setting : Setting) (session : Session) (raw : Text) : Program (Status × Session) :=
  let line := Command.upperVerb raw
  match Command.find? line setting.config.extensions with
  | none => do
    session.say 500 raw
    let session ← touch session
    return (.failure "unknown command", session)
  | some command =>
    match verdict setting session command with
    | .notLoggedIn => do
      session.say 530 "Please login with USER and PASS."
      return (.failure "not logged in", session)
    | .denied => do
      session.say 550 "Permission denied."
      return (.failure "permission denied", session)
    | .ignored => return (.success, session)
    | .run => do
      let (status, session) ← command.run setting session (command.argument line)
      let session ← touch session
      return (status, session)

/-- Serves at most one line that the session has received, or answers a line that is too long. -/
def processInput (setting : Setting) (session : Session) : Program (Status × Session) :=
  match session.input.nextLine? with
  | some (line, input) => dispatch setting { session with input } line
  | none =>
    if session.input.overflowed then do
      let session := { session with input := session.input.dropLine }
      session.say 500 "Line too long."
      return (.failure "line too long", session)
    else return (.success, session)

end Ftp.Dispatch
