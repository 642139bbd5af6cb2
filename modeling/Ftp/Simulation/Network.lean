import Ftp.Simulation.Failure

/-!
# A network in memory

Listeners and streams whose far ends are played by whoever runs the simulation: it dials in, leaves
bytes to be received, collects what has been sent, and lets operations fail.
-/

namespace Ftp.Simulation

/-- One connection. -/
structure Stream where
  handle : Socket
  name : Text
  /-- The server's end. -/
  near : Option Endpoint
  /-- The client's end. -/
  far : Endpoint
  /-- What the server has yet to receive. -/
  inbox : List UInt8 := []
  /-- What the server has sent since the last collection. -/
  outbox : List UInt8 := []
  /-- The client has closed its end. -/
  ended : Bool := false
  /-- The connection is broken. -/
  broken : Bool := false
  /-- The server has closed its end. -/
  closed : Bool := false
  /-- The next poll reports the stream even if there is nothing to receive. -/
  spurious : Bool := false
  /-- So many calls of receive are interrupted first. -/
  interrupts : Nat := 0
  /-- A call of receive gives no more than this. -/
  receiveMax : Option Nat := none
  /-- After so many more calls of send the next one fails. -/
  sendsLeft : Option Nat := none

/-- A change to a stream, made from outside. What has ended or broken stays so. -/
structure StreamChange where
  data : List UInt8 := []
  ended : Bool := false
  broken : Bool := false
  spurious : Bool := false
  interrupts : Option Nat := none
  receiveMax : Option Nat := none
  sendsLeft : Option Nat := none

structure Listener where
  handle : Socket
  endpoint : Endpoint
  /-- The connections that wait to be accepted. -/
  pending : List Socket := []
  /-- The next call of accept fails like this. -/
  acceptFailure : Option IoErrorKind := none

structure Network where
  /-- The last handle that was issued. -/
  lastHandle : UInt32 := 0
  listeners : List Listener := []
  /-- All connections, the latest one last. -/
  streams : List Stream := []
  /-- The ports that others hold. -/
  takenPorts : List UInt16 := []
  /-- Connections from the server are refused. -/
  refusing : Bool := false
  /-- The next poll fails. -/
  pollFails : Bool := false
  /-- The number of connections that the server has opened. -/
  opened : Nat := 0
  /-- The changes to make to the next connections that the server opens. -/
  nextOpened : List StreamChange := []

namespace Stream

variable (stream : Stream)

def apply (change : StreamChange) : Stream :=
  { stream with
    inbox := stream.inbox ++ change.data
    ended := stream.ended || change.ended
    broken := stream.broken || change.broken
    spurious := stream.spurious || change.spurious
    interrupts := change.interrupts.getD stream.interrupts
    receiveMax := change.receiveMax.orElse fun _ => stream.receiveMax
    sendsLeft := change.sendsLeft.orElse fun _ => stream.sendsLeft }

/-- A poll reports the stream. -/
def isReady : Bool :=
  !stream.closed && (stream.spurious || !stream.inbox.isEmpty || stream.ended || stream.broken)

def send (bytes : List UInt8) : Option Stream :=
  if stream.closed || stream.ended || stream.broken || stream.sendsLeft = some 0 then none
  else
    some
      { stream with
        outbox := stream.outbox ++ bytes
        sendsLeft := stream.sendsLeft.map (· - 1) }

def receive (limit : Nat) : Except IoError (Chunk limit) × Stream :=
  if stream.closed then (.error (failure .other), stream)
  else if 0 < stream.interrupts then
    (.error (failure .interrupted), { stream with interrupts := stream.interrupts - 1 })
  else if stream.broken then (.error (failure .connectionReset), stream)
  else if stream.inbox = [] then
    if stream.ended then (.ok (.take limit []), stream) else (.error (failure .wouldBlock), stream)
  else
    let chunk := Chunk.take limit (stream.inbox.take (stream.receiveMax.getD limit))
    (.ok chunk, { stream with inbox := stream.inbox.drop chunk.bytes.length })

end Stream

namespace Network

variable (network : Network)

def stream? (socket : Socket) : Option Stream :=
  network.streams.find? fun stream => stream.handle = socket

def listener? (socket : Socket) : Option Listener :=
  network.listeners.find? fun listener => listener.handle = socket

/-- The listener that holds the port. -/
def listenerOn? (port : UInt16) : Option Listener :=
  network.listeners.find? fun listener => listener.endpoint.port = port

def setStream (stream : Stream) : Network :=
  { network with
    streams := network.streams.map fun other =>
      if other.handle = stream.handle then stream else other }

def setListener (listener : Listener) : Network :=
  { network with
    listeners := network.listeners.map fun other =>
      if other.handle = listener.handle then listener else other }

/-- The handle that is issued next. -/
def nextHandle : Socket :=
  ⟨network.lastHandle + 1⟩

/-- Adds a stream that carries the next handle. -/
def addStream (stream : Stream) : Network :=
  { network with lastHandle := network.lastHandle + 1, streams := network.streams ++ [stream] }

/-- How a socket is called. -/
def name (socket : Socket) : Text :=
  match network.listener? socket, network.stream? socket with
  | some listener, _ => "listener:".toList ++ Decimal.digits listener.endpoint.port.toNat
  | none, some stream => stream.name
  | none, none => '#' :: Decimal.digits socket.id.toNat

/-! ## What the server asks for -/

def listen (endpoint : Endpoint) : Except IoError Socket × Network :=
  if network.takenPorts.contains endpoint.port || (network.listenerOn? endpoint.port).isSome then
    (.error (failure .other), network)
  else
    let listener : Listener := { handle := network.nextHandle, endpoint }
    (.ok listener.handle,
      { network with
        lastHandle := network.lastHandle + 1
        listeners := network.listeners ++ [listener] })

def accept (socket : Socket) : Except IoError (Socket × Endpoint) × Network :=
  match network.listener? socket with
  | none => (.error (failure .other), network)
  | some listener =>
    match listener.acceptFailure, listener.pending with
    | some kind, _ =>
      (.error (failure kind), network.setListener { listener with acceptFailure := none })
    | none, [] => (.error (failure .timedOut), network)
    | none, first :: pending =>
      match network.stream? first with
      | some stream => (.ok (first, stream.far), network.setListener { listener with pending })
      | none => (.error (failure .other), network)

def connect (target : Endpoint) : Except IoError Socket × Network :=
  if network.refusing then (.error (failure .other), network)
  else
    let stream : Stream :=
      { handle := network.nextHandle
        name := "out".toList ++ Decimal.digits (network.opened + 1)
        near := some ⟨.localhost, 20⟩
        far := target }
    let changed := (network.nextOpened.head?.map stream.apply).getD stream
    (.ok stream.handle,
      { network.addStream changed with
        opened := network.opened + 1, nextOpened := network.nextOpened.tail })

def localAddress (socket : Socket) : Except IoError Endpoint :=
  match network.listener? socket, (network.stream? socket).bind Stream.near with
  | some listener, _ => .ok listener.endpoint
  | none, some endpoint => .ok endpoint
  | none, none => .error (failure .other)

def send (socket : Socket) (bytes : List UInt8) : Except IoError Unit × Network :=
  match (network.stream? socket).bind fun stream => stream.send bytes with
  | some stream => (.ok (), network.setStream stream)
  | none => (.error (failure .other), network)

def receive (socket : Socket) (limit : Nat) : Except IoError (Chunk limit) × Network :=
  match network.stream? socket with
  | some stream =>
    let (answer, stream) := stream.receive limit
    (answer, network.setStream stream)
  | none => (.error (failure .other), network)

def close (socket : Socket) : Network :=
  { network with
    listeners := network.listeners.filter fun listener => listener.handle ≠ socket
    streams := network.streams.map fun stream =>
      if stream.handle = socket then { stream with closed := true } else stream }

/-- A poll reports the socket. -/
def isReady (socket : Socket) : Bool :=
  match network.listener? socket, network.stream? socket with
  | some listener, _ => listener.acceptFailure.isSome || !listener.pending.isEmpty
  | none, some stream => stream.isReady
  | none, none => false

def poll (sockets : List Socket) : Except IoError (List Socket) × Network :=
  if network.pollFails then (.error (failure .other), { network with pollFails := false })
  else
    (.ok (sockets.filter network.isReady),
      { network with
        streams := network.streams.map fun stream =>
          if sockets.contains stream.handle then { stream with spurious := false } else stream })

/-! ## What happens outside -/

/-- A connection from outside that waits at the listener of the port, if there is one. -/
def dial? (port : UInt16) (stream : Stream) : Option Network :=
  (network.listenerOn? port).map fun listener =>
    (network.addStream stream).setListener
      { listener with pending := listener.pending ++ [stream.handle] }

/-- Changes the latest stream with the name, if there is one. -/
def change? (name : Text) (change : StreamChange) : Option Network :=
  (network.streams.reverse.find? fun stream => stream.name = name).map fun stream =>
    network.setStream (stream.apply change)

/-- Lets the next call of accept fail on the listener of the port. -/
def failAccept (port : UInt16) (kind : IoErrorKind) : Network :=
  match network.listenerOn? port with
  | some listener => network.setListener { listener with acceptFailure := some kind }
  | none => network

/-- What the server has sent on each stream since the last collection. -/
def collect : List (Text × List UInt8) × Network :=
  let sent := network.streams.filter fun stream => !stream.outbox.isEmpty
  (sent.map fun stream => (stream.name, stream.outbox),
    { network with streams := network.streams.map fun stream => { stream with outbox := [] } })

end Network

end Ftp.Simulation
