import Ftp.Config

/-!
# Hooks

The part of a deployment that the configuration settles: which clients may connect, and which
address they are told to connect to.
-/

namespace Ftp

/-- The hooks of a deployment. Without settings they let everyone in. -/
structure Hooks where
  /-- The clients that may connect. Empty: every client may. -/
  allowedClients : List IPv4 := []
  /-- The address of the server as seen from outside of the local network. -/
  outsideAddress : Option IPv4 := none
  deriving DecidableEq, Repr

namespace Hooks

/-- The hooks that a configuration asks for. -/
def ofConfig (config : Config) : Hooks :=
  ⟨config.allowedClients, config.externalAddress⟩

variable (hooks : Hooks) (client : IPv4)

/-- A client of the local network reaches the server directly. -/
def externalAddress : Option IPv4 :=
  if client.isLocal then none else hooks.outsideAddress

def admits : Bool :=
  hooks.allowedClients.isEmpty || hooks.allowedClients.contains client

/-- No download is refused. -/
def mayRetrieve (_hooks : Hooks) (_client : IPv4) (_account _path : Text) : Bool :=
  true

end Hooks

end Ftp
