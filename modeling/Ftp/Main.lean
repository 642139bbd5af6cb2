import Ftp.Config.Load
import Ftp.Server

/-!
# The program

Reads the configuration and provisions the accounts. The server itself needs sockets, and this
platform offers none, so that starting it always ends with the reason why it cannot be started.
-/

namespace Ftp

/-- The fields that variables of the environment may set. -/
def variableFields : List String :=
  ["BIND_ADDRESS", "CONTROL_PORT", "PASSIVE_PORT_BASE", "EXTERNAL_ADDRESS", "ALLOWED_CLIENTS",
    "MAX_SESSIONS", "MAX_ACCOUNTS", "MAX_USERNAME_LENGTH", "MAX_PASSWORD_LENGTH",
    "MAX_PATH_LENGTH", "RX_BUFFER_SIZE", "TRANSFER_CHUNK_SIZE", "SESSION_TIMEOUT_SECS",
    "POLL_INTERVAL_MS", "DATA_CONNECT_TIMEOUT_SECS", "RFC3659", "ACCOUNTS"]

/-- The variables of the environment that set fields. -/
def readVariables : IO (List (Text × Text)) :=
  variableFields.filterMapM fun field => do
    let name := "MINI_FTPD_" ++ field
    return (← IO.getEnv name).map fun value => (name.toList, value.toList)

/-- The text of the configuration file, if there is one. -/
def readDocument : IO (Option Text) := do
  try
    let text ← IO.FS.readFile "config.toml"
    return some text.toList
  catch _ => return none

/-- What is known of a start before a socket is opened. -/
def prepare (document : Option Text) (environment : List (Text × Text)) :
    Except Panic (Except ServerError Server) := do
  match ← Config.load document environment with
  | .error error => return .error (.config error.message)
  | .ok config =>
    match ← config.registry with
    | .error error => return .error (.account error)
    | .ok accounts => return .ok (← Server.new config accounts)

/-- Sockets are missing. -/
def noSockets : IoError :=
  ⟨.other, "no socket backend for this platform"⟩

end Ftp

def main : IO UInt32 := do
  match Ftp.prepare (← Ftp.readDocument) (← Ftp.readVariables) with
  | .error panic =>
    IO.eprintln panic.message
    return 101
  | .ok prepared =>
    let error := match prepared with
      | .error error => error
      | .ok _ => .io Ftp.noSockets
    IO.eprintln ("Server startup failed: " ++ error.message)
    return 1
