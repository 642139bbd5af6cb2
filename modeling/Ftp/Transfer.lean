import Ftp.DataChannel

/-!
# Transfers

A transfer moves at most one chunk in each step, so that the steps of many sessions take turns. The
last step answers the client, since the command that began the transfer has long been served, and
releases the data connection and the file.
-/

namespace Ftp

/-- What a step has come to. -/
inductive StepOutcome where
  | pending
  | finished
  deriving DecidableEq, Repr

namespace Transfer

/-- Begins a transfer in an idle session. -/
def start (session : Session) (transmission : Transmission) : Except TransferError Session :=
  if session.isTransferring then .error .alreadyActive else .ok { session with transmission }

/-- Releases what the transmission owns. -/
def release : Transmission → Program Unit
  | .idle => return
  | .retrieving file socket _ => do
    .request (.closeSocket socket)
    .request (.closeFile file)
  | .storing file socket => do
    .request (.closeSocket socket)
    .request (.closeFile file)

/-- Ends the transfer of the session, if there is one. -/
def close (session : Session) : Program Session := do
  release session.transmission
  return { session with transmission := .idle }

/-- Answers that a download has ended. Nothing is left of it. -/
def concludeRetrieve (session : Session) (code : Nat) (text : Text) : Program (Option Nat) := do
  session.say code text
  return none

/-- Sends the next chunk of a file of which `remaining` bytes are left. Gives the number of bytes
left after that, or nothing once the download has ended. -/
def retrieveStep (setting : Setting) (session : Session) (file : File) (socket : Socket)
    (remaining : Nat) : Program (Option Nat) :=
  if remaining = 0 then concludeRetrieve session 226 "Transfer complete."
  else do
    match ← .request (.readFile file (min setting.config.chunkSize.toNat remaining)) with
    | .error _ => concludeRetrieve session 451 "Error reading file."
    | .ok chunk =>
      if chunk.bytes = [] then concludeRetrieve session 451 "Error reading file."
      else
        match ← .request (.send socket chunk.bytes) with
        | .error _ => concludeRetrieve session 426 "Data connection error."
        | .ok () =>
          let left := remaining - chunk.bytes.length
          if left = 0 then concludeRetrieve session 226 "Transfer complete." else return some left

/-- How a data connection stands after reading from it. -/
inductive StreamState where
  /-- The client may still send. -/
  | alive
  /-- The client has sent everything. -/
  | ended
  | broken
  deriving DecidableEq, Repr

/-- The interruptions that the reading of one step goes through. A program is a finite tree of
requests, so the model has to stop somewhere and leave the rest to the next step; the loop that it
describes reads on however often it is interrupted. -/
def patience : Nat := UInt32.size

/-- Takes what has arrived on the socket, at most `space` bytes and in at most `attempts` calls. The
bytes that have been taken before stand in `taken`, the latest one first. -/
def receiveUpTo (socket : Socket) :
    (attempts space : Nat) → (taken : List UInt8) → Program (List UInt8 × StreamState)
  | 0, _, taken => return (taken.reverse, .alive)
  | _ + 1, 0, taken => return (taken.reverse, .alive)
  | attempts + 1, space, taken => do
    match ← .request (.receive socket space) with
    | .ok chunk =>
      if chunk.bytes = [] then return (taken.reverse, .ended)
      else
        receiveUpTo socket attempts (space - chunk.bytes.length) (chunk.bytes.reverse ++ taken)
    | .error error =>
      match error.kind with
      | .wouldBlock => return (taken.reverse, .alive)
      | .interrupted => receiveUpTo socket attempts space taken
      | _ => return (taken.reverse, .broken)

/-- Writes bytes to the file, unless there are none. -/
def writeIfAny (file : File) (bytes : List UInt8) : Program (Except IoError Unit) :=
  if bytes = [] then return .ok () else .request (.writeFile file bytes)

/-- Answers that an upload has ended. It does not go on. -/
def concludeStore (session : Session) (code : Nat) (text : Text) : Program Bool := do
  session.say code text
  return false

/-- Stores what has arrived, at most one chunk. Tells whether the upload goes on. -/
def storeStep (setting : Setting) (session : Session) (file : File) (socket : Socket) :
    Program Bool := do
  let space := setting.config.chunkSize.toNat
  let (bytes, state) ← receiveUpTo socket (space + patience) space []
  match ← writeIfAny file bytes with
  | .error _ => concludeStore session 451 "Error writing file."
  | .ok () =>
    match state with
    | .alive => return true
    | .ended => concludeStore session 226 "Transfer complete."
    | .broken => concludeStore session 426 "Connection closed; transfer aborted."

/-- The last step of a transfer. -/
def finish (session : Session) : Program (StepOutcome × Session) := do
  let session ← close session
  return (.finished, session)

/-- Takes one step of the session's transfer. -/
def step (setting : Setting) (session : Session) : Program (StepOutcome × Session) := do
  let now ← .request .unixTime
  let session := { session with lastCommand := now }
  match session.transmission with
  | .idle => return (.finished, session)
  | .retrieving file socket remaining =>
    match ← retrieveStep setting session file socket remaining with
    | some remaining =>
      return (.pending, { session with transmission := .retrieving file socket remaining })
    | none => finish session
  | .storing file socket =>
    if ← storeStep setting session file socket then return (.pending, session) else finish session

end Transfer

end Ftp
