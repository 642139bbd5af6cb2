import Ftp.Setting

/-!
# Data channel

Each transfer and each listing has a data connection of its own. In passive mode the session accepts
it on a listener whose port belongs to the session's slot; in active mode it connects to the port
that the client named, and to no other address than the client's own.
-/

namespace Ftp

/-- Why there is no data connection, or no transfer on it. -/
inductive TransferError where
  | alreadyActive
  | noDataTarget
  | passivePortOutOfRange (slot : Nat)
  | dataConnection (cause : IoError)
  | clientRejected (peer : Endpoint)
  deriving DecidableEq, Repr

namespace TransferError

def message : TransferError → String
  | .alreadyActive => "a transmission is already active"
  | .noDataTarget => "no data connection target (send PORT or PASV first)"
  | .passivePortOutOfRange slot => s!"passive port for slot {slot} is out of range"
  | .dataConnection cause => s!"data connection failed: {cause.text}"
  | .clientRejected peer => s!"data connection from {String.ofList peer.text} rejected"

/-- The code of the reply to the client. -/
def replyCode : TransferError → Nat
  | .alreadyActive => 450
  | _ => 425

end TransferError

namespace DataChannel

/-- Each slot has a passive port of its own. -/
def passivePort (base : UInt16) (slot : Nat) : Except TransferError UInt16 :=
  if base.toNat + slot < UInt16.size then .ok (UInt16.ofNat (base.toNat + slot))
  else .error (.passivePortOutOfRange slot)

def closeListener : Option Socket → Program Unit
  | some listener => .request (.closeSocket listener)
  | none => return

def dropForward : Option UInt16 → Program Unit
  | some port => .request (.removeForward port)
  | none => return

/-- Gives up the passive listener of the session and the forwarding of its port. -/
def closePassive (session : Session) : Program Session := do
  closeListener session.passiveListener
  dropForward session.forwardedPort
  return { session with passiveListener := none, forwardedPort := none }

/-- The address at which the client reaches the server: that of its control connection, if there is
one. -/
def ownAddress (setting : Setting) (session : Session) : Program IPv4 := do
  match ← .request (.localAddress session.control) with
  | .ok endpoint => return endpoint.ip
  | .error _ => return setting.config.bindAddress

/-- Binds the passive listener of the session, in place of an earlier one. Gives the endpoint to
announce to the client. -/
def openPassive (setting : Setting) (session : Session) :
    Program (Except TransferError Endpoint × Session) := do
  let session ← closePassive session
  match passivePort setting.config.passivePortBase session.slot with
  | .error error => return (.error error, session)
  | .ok port =>
    match ← .request (.listen ⟨setting.config.bindAddress, port⟩) with
    | .error cause => return (.error (.dataConnection cause), session)
    | .ok listener =>
      let session := { session with passiveListener := some listener }
      match ← .request (.externalAddress session.remote.ip) with
      | some outside =>
        .request (.addForward port port)
        return (.ok ⟨outside, port⟩, { session with forwardedPort := some port })
      | none =>
        let own ← ownAddress setting session
        return (.ok ⟨own, port⟩, session)

/-- Accepts a data connection on the listener, from a client that may connect. -/
def acceptFrom (setting : Setting) (listener : Socket) : Program (Except TransferError Socket) := do
  match ← .request (.accept listener setting.config.connectWait) with
  | .error cause => return .error (.dataConnection cause)
  | .ok (socket, peer) =>
    if ← .request (.admits peer.ip) then
      return .ok socket
    else
      .request (.closeSocket socket)
      return .error (.clientRejected peer)

/-- Opens a data connection to the client. -/
def connectTo (setting : Setting) (target : Endpoint) : Program (Except TransferError Socket) := do
  match ← .request (.connect target setting.config.connectWait) with
  | .error cause => return .error (.dataConnection cause)
  | .ok socket => return .ok socket

/-- Makes the data connection for one transfer. -/
def establish (setting : Setting) (session : Session) : Program (Except TransferError Socket) :=
  if session.passive then
    match session.passiveListener with
    | some listener => acceptFrom setting listener
    | none => return .error .noDataTarget
  else if session.remoteDataPort = 0 then return .error .noDataTarget
  else connectTo setting ⟨session.remote.ip, session.remoteDataPort⟩

/-- Goes on with a data connection, or answers that there is none. -/
def withConnection (setting : Setting) (session : Session)
    (next : Socket → Program (Status × Session)) : Program (Status × Session) := do
  match ← establish setting session with
  | .ok socket => next socket
  | .error error => session.fail error.replyCode "Cannot open data connection."

end DataChannel

end Ftp
