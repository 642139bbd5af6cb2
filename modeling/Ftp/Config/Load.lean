import Ftp.Config.Field
import Ftp.Config.KeyPath
import Ftp.Toml.Document

/-!
# Loading a configuration

A configuration is read from a TOML document and from the environment, whose variables take
precedence. Fields that are not given have their defaults.
-/

namespace Ftp.Config

/-- The configuration that a tree describes. Keys that name no field are passed over. -/
def ofTree (tree : Tree) : Except LoadError Config := do
  let field {α : Type} (key : Text) (default : α) (convert : Tree → Except LoadError α) :=
    fieldOr default convert (tree.entries.get? key)
  let default : Config := {}
  return {
    bindAddress := ← field "bind_address" default.bindAddress asAddress
    controlPort := ← field "control_port" default.controlPort asPort
    passivePortBase := ← field "passive_port_base" default.passivePortBase asPort
    externalAddress := ← field "external_address" default.externalAddress fun tree =>
      some <$> asAddress tree
    allowedClients := ← field "allowed_clients" default.allowedClients (asList asAddress)
    maxSessions := ← field "max_sessions" default.maxSessions asWord
    maxAccounts := ← field "max_accounts" default.maxAccounts asWord
    maxNameLength := ← field "max_username_length" default.maxNameLength asWord
    maxPasswordLength := ← field "max_password_length" default.maxPasswordLength asWord
    maxPathLength := ← field "max_path_length" default.maxPathLength asWord
    lineBufferSize := ← field "rx_buffer_size" default.lineBufferSize asWord
    chunkSize := ← field "transfer_chunk_size" default.chunkSize asWord
    sessionTimeout := ← field "session_timeout_secs" default.sessionTimeout asWord
    pollInterval := ← field "poll_interval_ms" default.pollInterval asWord
    connectTimeout := ← field "data_connect_timeout_secs" default.connectTimeout asWord
    extensions := ← field "rfc3659" default.extensions asBool
    accounts := ← field "accounts" default.accounts (asList asAccount) }

/-! ## The environment -/

/-- The variables of the environment that name fields begin like this. -/
def variablePrefix : Text := "mini_ftpd_"

/-- The letter in lower case. Only letters whose lower case is in ASCII matter here, since no field
has a name with any others: those of ASCII and the Kelvin sign. -/
def lowerLetter (c : Char) : Char :=
  if c = '\u212A' then 'k' else c.toLower

/-- The text with dots in place of double underscores. -/
def dotted : Text → Text
  | '_' :: '_' :: rest => '.' :: dotted rest
  | c :: rest => c :: dotted rest
  | [] => []

/-- The key of the field that a variable names. -/
def variableKey? (name : Text) : Option Text :=
  (Text.after? variablePrefix (name.map lowerLetter)).map dotted

/-! ## The sources -/

/-- Puts the value where the key leads. -/
def assign (tree : Tree) (key : Text) (value : Tree) : Tree :=
  Tree.putAt value (KeyPath.ofKey key) tree

/-- What a document says. It says nothing if it is no table. -/
def ofDocument (document : Toml.Value) : Tree :=
  document.entries.foldl (fun tree entry => assign tree entry.1 (.ofValue entry.2)) (.table [])

/-- Adds what a variable of the environment says. -/
def addVariable (tree : Tree) (variable_ : Text × Text) : Tree :=
  match variableKey? variable_.1 with
  | some key => assign tree key (.text variable_.2)
  | none => tree

/-- The configuration that a document, if there is one, and the environment describe. -/
def read (document : Option Text) (environment : List (Text × Text)) :
    Except LoadError Config := do
  let said ← match document with
    | some text => (required .notToml (Toml.parse text)).map ofDocument
    | none => .ok (.table [])
  ofTree (environment.foldl addVariable said)

/-- Loads a configuration from a document, if there is one, and from the environment. It must be
valid. -/
def load (document : Option Text) (environment : List (Text × Text)) :
    Except Panic (Except LoadError Config) :=
  match read document environment with
  | .error error => .ok (.error error)
  | .ok config => config.fault?.map fun
    | some fault => .error (.invalid fault)
    | none => .ok config

end Ftp.Config
