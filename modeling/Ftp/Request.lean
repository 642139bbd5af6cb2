import Ftp.FileInfo
import Ftp.Reply

/-!
# Requests to the platform

Everything that the server needs from outside is a `Request`, and `Request.Answer` says what comes
back: sockets, files, the clock, and the hooks by which a deployment forwards ports and filters
clients. The server sees sockets and files through handles only.
-/

namespace Ftp

/-- The handle of a listener or of a stream. -/
structure Socket where
  id : UInt32
  deriving DecidableEq, Repr

structure File where
  id : UInt32
  deriving DecidableEq, Repr

inductive OpenMode where
  | read
  /-- Creates the file, or empties it. -/
  | write
  deriving DecidableEq, Repr

inductive IoErrorKind where
  | notFound
  | alreadyExists
  | wouldBlock
  | timedOut
  | interrupted
  | connectionReset
  | other
  deriving DecidableEq, Repr

/-- Why an operation on a socket or a file failed. -/
structure IoError where
  kind : IoErrorKind
  text : String := ""
  deriving DecidableEq, Repr

/-- At most `limit` bytes. -/
structure Chunk (limit : Nat) where
  bytes : List UInt8
  length_le : bytes.length ≤ limit

/-- The first `limit` of some bytes. -/
def Chunk.take (limit : Nat) (bytes : List UInt8) : Chunk limit :=
  ⟨bytes.take limit, List.length_take_le limit bytes⟩

/-- A request to the platform. Waiting times are in milliseconds. -/
inductive Request where
  | listen (endpoint : Endpoint)
  | accept (listener : Socket) (wait : Nat)
  | connect (target : Endpoint) (wait : Nat)
  | localAddress (socket : Socket)
  /-- Sends every byte on a data connection, or fails. -/
  | send (socket : Socket) (bytes : List UInt8)
  /-- Sends a reply on a control connection. That this failed shows when the connection is read. -/
  | reply (control : Socket) (reply : Reply)
  /-- Takes at most `limit` bytes that have arrived. None at all means that the peer has closed. -/
  | receive (socket : Socket) (limit : Nat)
  | closeSocket (socket : Socket)
  /-- The sockets that have something to accept or to receive. -/
  | poll (sockets : List Socket) (wait : Nat)
  | openFile (path : Text) (mode : OpenMode)
  /-- Takes the next bytes of a file, at most `limit`. None at all means that the file has ended. -/
  | readFile (file : File) (limit : Nat)
  /-- Writes every byte, or fails. -/
  | writeFile (file : File) (bytes : List UInt8)
  | closeFile (file : File)
  | stat (path : Text)
  | readDir (path : Text)
  | removeFile (path : Text)
  | makeDir (path : Text)
  | removeDir (path : Text)
  /-- The seconds since the beginning of 1970. A clock names them in signed words of 64 bits, and
  stays in the range of its calendar, some hundred thousand years around that date. -/
  | unixTime
  | localTime
  /-- The address to announce to the client, if it is not the server's own. -/
  | externalAddress (client : IPv4)
  | addForward (inner outer : UInt16)
  | removeForward (outer : UInt16)
  | admits (client : IPv4)
  | mayRetrieve (client : IPv4) (account path : Text)

/-- What a request is answered with. -/
abbrev Request.Answer : Request → Type
  | .listen _ => Except IoError Socket
  | .accept _ _ => Except IoError (Socket × Endpoint)
  | .connect _ _ => Except IoError Socket
  | .localAddress _ => Except IoError Endpoint
  | .send _ _ => Except IoError Unit
  | .reply _ _ => Unit
  | .receive _ limit => Except IoError (Chunk limit)
  | .closeSocket _ => Unit
  | .poll _ _ => Except IoError (List Socket)
  | .openFile _ _ => Except IoError File
  | .readFile _ limit => Except IoError (Chunk limit)
  | .writeFile _ _ => Except IoError Unit
  | .closeFile _ => Unit
  | .stat _ => Except IoError FileInfo
  | .readDir _ => Except IoError (List Text)
  | .removeFile _ => Except IoError Unit
  | .makeDir _ => Except IoError Unit
  | .removeDir _ => Except IoError Unit
  | .unixTime => Int
  | .localTime => DateTime
  | .externalAddress _ => Option IPv4
  | .addForward _ _ => Unit
  | .removeForward _ => Unit
  | .admits _ => Bool
  | .mayRetrieve _ _ _ => Bool

end Ftp
