import Ftp.Dispatch
import Ftp.SessionTable

/-!
# Server

A server drives every session from one loop. A pass of the loop takes a step of each transfer, waits
for events, accepts at most one client, serves at most one line of each session, and closes the
sessions that have been idle for too long.
-/

namespace Ftp

structure Server where
  config : Config
  accounts : Registry
  sessions : SessionTable
  /-- The control listener, once the server is started. -/
  listener : Option Socket := none

/-- What can go wrong with a server. -/
inductive ServerError where
  | config (text : String)
  | account (error : AccountError)
  | session (error : SessionError)
  | transfer (error : TransferError)
  | bind (endpoint : Endpoint) (cause : IoError)
  | notStarted
  | io (cause : IoError)
  deriving DecidableEq, Repr

def ServerError.message : ServerError → String
  | .config text => s!"configuration error: {text}"
  | .account error => s!"account error: {error.message}"
  | .session error => s!"session error: {error.message}"
  | .transfer error => s!"transfer error: {error.message}"
  | .bind endpoint cause => s!"failed to bind {String.ofList endpoint.text}: {cause.text}"
  | .notStarted => "server is not started"
  | .io cause => s!"I/O error: {cause.text}"

namespace Server

/-- A server that is not started. -/
def create (config : Config) (accounts : Registry) : Server :=
  { config, accounts, sessions := .free config.maxSessions.toNat config.lineBufferSize.toNat }

/-- A server that is not started, if its sessions and the bytes that a step of a transfer moves may
be asked for. -/
def new (config : Config) (accounts : Registry) : Except Panic Server := do
  let sessions ← SessionTable.empty config.maxSessions.toNat config.lineBufferSize.toNat
  allocate config.chunkSize.toNat 1 { config, accounts, sessions }

theorem new_eq_ok_iff {config : Config} {accounts : Registry} {server : Server} :
    new config accounts = .ok server ↔
      Allocatable config.lineBufferSize.toNat 1 ∧
        Allocatable config.maxSessions.toNat SessionTable.slotSize ∧
        Allocatable config.chunkSize.toNat 1 ∧ create config accounts = server := by
  simp only [new, create, Panic.bind_eq_ok_iff, SessionTable.empty_eq_ok_iff, allocate_eq_ok_iff,
    and_assoc, exists_and_left, exists_eq_left']

variable (server : Server)

def setting : Setting :=
  ⟨server.config, server.accounts⟩

/-- Binds the control listener and gives the endpoint that it is bound to. -/
def start : Program (Except ServerError Endpoint × Server) := do
  let endpoint := server.config.controlEndpoint
  match ← .request (.listen endpoint) with
  | .error cause => return (.error (.bind endpoint cause), server)
  | .ok listener =>
    let server := { server with listener := some listener }
    match ← .request (.localAddress listener) with
    | .ok bound => return (.ok bound, server)
    | .error _ => return (.ok endpoint, server)

/-- The endpoint of the control listener. -/
def localAddress? : Program (Option Endpoint) :=
  match server.listener with
  | none => return none
  | some listener => do
    match ← .request (.localAddress listener) with
    | .ok bound => return some bound
    | .error _ => return none

/-- Takes one step of the transfer of each of the sessions. -/
def stepTransfers (setting : Setting) : (slots : List Nat) → SessionTable → Program SessionTable
  | [], table => return table
  | slot :: slots, table =>
    match table.get? slot with
    | none => stepTransfers setting slots table
    | some session => do
      let (_, session) ← Transfer.step setting session
      stepTransfers setting slots (table.put session)

/-- The sockets to wait for: the listener, and the control connections of the sessions that can take
more bytes. -/
def watched (listener : Socket) (table : SessionTable) : List Socket :=
  listener :: (table.sessions.filter fun session => 0 < session.input.spare).map Session.control

/-- While there is work to do the server does not wait. -/
def pollWait (config : Config) (table : SessionTable) : Nat :=
  if 0 < table.transferCount ∨ table.hasPendingLines then 0 else config.pollInterval.toNat

/-- The sockets with events. If waiting fails there are none. -/
def pollReady (sockets : List Socket) (wait : Nat) : Program (List Socket) := do
  match ← .request (.poll sockets wait) with
  | .ok ready => return ready
  | .error _ => return []

/-- Opens a session for the client and greets it, or closes the connection if there is no slot
left. -/
def welcome (table : SessionTable) (socket : Socket) (peer : Endpoint) : Program SessionTable := do
  let now ← .request .unixTime
  match table.insert socket peer now with
  | .ok (_, table) =>
    .request (.reply socket (.line 220 "Welcome to mini-ftpd."))
    return table
  | .error _ =>
    .request (.closeSocket socket)
    return table

/-- Accepts a client that is waiting, unless the deployment does not want it. -/
def acceptClient (listener : Socket) (table : SessionTable) : Program SessionTable := do
  match ← .request (.accept listener 0) with
  | .error _ => return table
  | .ok (socket, peer) =>
    if ← .request (.admits peer.ip) then welcome table socket peer
    else
      .request (.closeSocket socket)
      return table

/-- Takes what the client has sent into the line buffer. Tells whether the connection is still
there. -/
def receive (setting : Setting) (session : Session) : Program (Bool × Session) :=
  let limit := min session.input.spare setting.config.chunkSize.toNat
  if limit = 0 then return (true, session)
  else do
    match ← .request (.receive session.control limit) with
    | .ok chunk =>
      if chunk.bytes = [] then return (false, session)
      else return (true, { session with input := (session.input.extend chunk.bytes).2 })
    | .error error =>
      match error.kind with
      | .wouldBlock | .interrupted => return (true, session)
      | _ => return (false, session)

/-- Closes the session of the slot. -/
def closeSlot (slot : Nat) (table : SessionTable) : Program SessionTable := do
  let (_, table) ← table.close slot
  return table

/-- Serves the next line of a session. -/
def serveLine (setting : Setting) (session : Session) (table : SessionTable) :
    Program SessionTable := do
  match ← Dispatch.processInput setting session with
  | (.close, session) => closeSlot session.slot (table.put session)
  | (_, session) => return table.put session

/-- Receives from a session that has an event, and serves its next line. -/
def serve (setting : Setting) (ready : List Socket) (session : Session) (table : SessionTable) :
    Program SessionTable :=
  if session.control ∈ ready then do
    match ← receive setting session with
    | (true, session) => serveLine setting session table
    | (false, session) => closeSlot session.slot (table.put session)
  else serveLine setting session table

/-- Serves each of the sessions. -/
def serveAll (setting : Setting) (ready : List Socket) :
    (slots : List Nat) → SessionTable → Program SessionTable
  | [], table => return table
  | slot :: slots, table =>
    match table.get? slot with
    | none => serveAll setting ready slots table
    | some session => do
      let table ← serve setting ready session table
      serveAll setting ready slots table

/-- The slots of the sessions that have been idle for too long. Of two times that a calendar of some
hundred thousand years can name, the difference is a signed word of 64 bits like the times
themselves, so it is taken in the integers. -/
def idleSlots (config : Config) (now : Int) (table : SessionTable) : List Nat :=
  let idle := table.sessions.filter fun session => config.idleLimit ≤ now - session.lastCommand
  idle.map Session.slot

/-- Takes leave of each of the sessions and closes it. -/
def expire : (slots : List Nat) → SessionTable → Program SessionTable
  | [], table => return table
  | slot :: slots, table =>
    match table.get? slot with
    | none => expire slots table
    | some session => do
      session.say 421 "Timeout."
      let table ← closeSlot slot table
      expire slots table

/-- Accepts a client if the listener has an event. -/
def acceptIfReady (listener : Socket) (ready : List Socket) (table : SessionTable) :
    Program SessionTable :=
  if listener ∈ ready then acceptClient listener table else return table

/-- One pass of a started server. -/
def pass (setting : Setting) (listener : Socket) (table : SessionTable) : Program SessionTable := do
  let table ← stepTransfers setting table.transferring table
  let ready ← pollReady (watched listener table) (pollWait setting.config table)
  let table ← acceptIfReady listener ready table
  let table ← serveAll setting ready table.occupied table
  let now ← .request .unixTime
  expire (idleSlots setting.config now table) table

/-- One pass of the loop. -/
def runOnce : Program (Except ServerError Unit × Server) :=
  match server.listener with
  | none => return (.error .notStarted, server)
  | some listener => do
    let sessions ← pass server.setting listener server.sessions
    return (.ok (), { server with sessions })

/-- Runs up to so many passes, or up to the first that fails, after starting the server if it is not
started. -/
def run (passes : Nat) : Program (Except ServerError Unit × Server) :=
  match server.listener with
  | some _ => loop passes server
  | none => do
    match ← server.start with
    | (.ok _, server) => loop passes server
    | (.error error, server) => return (.error error, server)
where
  loop : Nat → Server → Program (Except ServerError Unit × Server)
    | 0, server => return (.ok (), server)
    | passes + 1, server => do
      match ← server.runOnce with
      | (.ok (), server) => loop passes server
      | (.error error, server) => return (.error error, server)

/-- Closes each of the sessions. -/
def closeSlots : (slots : List Nat) → SessionTable → Program SessionTable
  | [], table => return table
  | slot :: slots, table => do
    let table ← closeSlot slot table
    closeSlots slots table

/-- Closes every session and the control listener. -/
def shutdown : Program Server := do
  let sessions ← closeSlots server.sessions.occupied server.sessions
  DataChannel.closeListener server.listener
  return { server with sessions, listener := none }

end Server

end Ftp
