import Ftp.LineBuffer
import Ftp.Account
import Ftp.Request

/-!
# Sessions

The record of one control connection: who is logged in, where the client stands, how data
connections are made, what has been received, and the transfer that is going on.
-/

namespace Ftp

/-- A data transfer, with the handles that it owns. -/
inductive Transmission where
  | idle
  /-- A download with so many bytes left to send. -/
  | retrieving (file : File) (socket : Socket) (remaining : Nat)
  | storing (file : File) (socket : Socket)
  deriving DecidableEq, Repr

def Transmission.isActive : Transmission → Bool
  | .idle => false
  | _ => true

structure Session where
  slot : Nat
  control : Socket
  remote : Endpoint
  /-- The password of the account has been accepted. -/
  authenticated : Bool := false
  account : Option AccountId := none
  /-- The virtual path of the working directory. -/
  workingDir : Text := ['/']
  /-- When the session was last active, in seconds since the beginning of 1970. -/
  lastCommand : Int
  /-- Data connections are accepted rather than opened. -/
  passive : Bool := false
  binary : Bool := true
  input : LineBuffer
  passiveListener : Option Socket := none
  transmission : Transmission := .idle
  /-- The port of the client to open data connections to, or zero. -/
  remoteDataPort : UInt16 := 0
  forwardedPort : Option UInt16 := none
  deriving DecidableEq, Repr

namespace Session

variable (session : Session)

/-- Accepts the password: the session is logged in, and stands at the root of its account. -/
def authenticate : Session :=
  { session with authenticated := true, workingDir := ['/'] }

/-- The account that the session acts for. -/
def loggedIn? : Option AccountId :=
  if session.authenticated then session.account else none

def isLoggedIn : Bool :=
  session.authenticated && session.account.isSome

def isTransferring : Bool :=
  session.transmission.isActive

end Session

end Ftp
