import Ftp.Hooks
import Ftp.Program
import Ftp.Simulation.Disk
import Ftp.Simulation.Network

/-!
# A platform in memory

A network, a disk, a clock and hooks that answer every request of a program, with a log of what can
be observed from outside. A session, a transfer or a whole server runs on it as on any other
platform.
-/

namespace Ftp.Simulation

/-- How the deployment is played. -/
inductive Deployment where
  | configured (hooks : Hooks)
  /-- Answers from lists, and logs what it is asked. -/
  | scripted (outside : List (IPv4 × IPv4)) (deniedClients : List IPv4)
    (deniedRetrievals : List Text)

structure World where
  network : Network := {}
  disk : Disk := {}
  deployment : Deployment := .configured {}
  /-- The seconds since the beginning of 1970. -/
  clock : Int
  /-- Waiting is logged, too. -/
  tracing : Bool := false
  log : List Text := []

namespace World

variable (world : World)

def note (event : Text) : World :=
  { world with log := world.log ++ [event] }

/-- Notes the event if waiting is logged. -/
def trace (event : Text) : World :=
  if world.tracing then world.note event else world

/-- The time that was waited for at most, where it is logged. -/
def waitText (wait : Nat) : Text :=
  if world.tracing then ' ' :: Decimal.digits wait ++ "ms".toList else []

def now : DateTime :=
  .ofUnix world.clock

/-- What the deployment is asked before a download. -/
def retrieval (client : IPv4) (account path : Text) : Text :=
  client.text ++ ' ' :: account ++ ' ' :: path

def externalAddress (client : IPv4) : Option IPv4 :=
  match world.deployment with
  | .configured hooks => hooks.externalAddress client
  | .scripted outside _ _ => outside.lookup client

def admits (client : IPv4) : Bool :=
  match world.deployment with
  | .configured hooks => hooks.admits client
  | .scripted _ deniedClients _ => !deniedClients.contains client

def mayRetrieve (client : IPv4) (account path : Text) : Bool :=
  match world.deployment with
  | .configured hooks => hooks.mayRetrieve client account path
  | .scripted _ _ deniedRetrievals =>
    !deniedRetrievals.any fun ending => ending.isSuffixOf (retrieval client account path)

/-- Notes what is asked of a scripted deployment. -/
def noteScripted (event : Text) : World :=
  match world.deployment with
  | .configured _ => world
  | .scripted _ _ _ => world.note event

/-- Answers one request. -/
def answer (request : Request) (world : World) : request.Answer × World :=
  match request with
  | .listen endpoint =>
    match world.network.listen endpoint with
    | (.ok socket, network) =>
      (.ok socket, { world with network }.note ("listen ".toList ++ endpoint.text))
    | (.error error, network) => (.error error, { world with network })
  | .accept listener wait =>
    let name := world.network.name listener
    let world := world.trace ("accept ".toList ++ name ++ world.waitText wait)
    let (answer, network) := world.network.accept listener
    (answer, { world with network })
  | .connect target wait =>
    match world.network.connect target with
    | (.ok socket, network) =>
      (.ok socket,
        { world with network }.note ("connect ".toList ++ target.text ++ world.waitText wait))
    | (.error error, network) =>
      (.error error,
        { world with network }.note ("refused ".toList ++ target.text ++ world.waitText wait))
  | .localAddress socket => (world.network.localAddress socket, world)
  | .send socket bytes =>
    let (answer, network) := world.network.send socket bytes
    (answer, { world with network })
  | .reply control reply =>
    let (_, network) := world.network.send control reply.bytes
    ((), { world with network })
  | .receive socket limit =>
    let (answer, network) := world.network.receive socket limit
    (answer, { world with network })
  | .closeSocket socket =>
    ((), { world with network := world.network.close socket }.note
      ("close ".toList ++ world.network.name socket))
  | .poll sockets wait =>
    let names := Text.join ',' (sockets.map world.network.name)
    let world := world.trace ("poll".toList ++ world.waitText wait ++ ' ' :: names)
    let (answer, network) := world.network.poll sockets
    (answer, { world with network })
  | .openFile path mode =>
    let (answer, disk) := world.disk.openFile path mode world.now
    (answer, { world with disk })
  | .readFile file limit =>
    let (answer, disk) := world.disk.read file limit
    (answer, { world with disk })
  | .writeFile file bytes =>
    let (answer, disk) := world.disk.write file bytes
    (answer, { world with disk })
  | .closeFile file => ((), { world with disk := world.disk.close file })
  | .stat path => (world.disk.stat path, world)
  | .readDir path => (world.disk.readDir path, world)
  | .removeFile path =>
    let (answer, disk) := world.disk.removeFile path
    (answer, { world with disk })
  | .makeDir path =>
    let (answer, disk) := world.disk.makeDir path world.now
    (answer, { world with disk })
  | .removeDir path =>
    let (answer, disk) := world.disk.removeDir path
    (answer, { world with disk })
  | .unixTime => (world.clock, world)
  | .localTime => (world.now, world)
  | .externalAddress client => (world.externalAddress client, world)
  | .addForward inner outer =>
    ((), world.noteScripted
      ("forward+ ".toList ++ Decimal.digits inner.toNat ++ ' ' :: Decimal.digits outer.toNat))
  | .removeForward outer =>
    ((), world.noteScripted ("forward- ".toList ++ Decimal.digits outer.toNat))
  | .admits client => (world.admits client, world)
  | .mayRetrieve client account path =>
    (world.mayRetrieve client account path,
      world.noteScripted ("may_retrieve ".toList ++ retrieval client account path))

/-- Runs a program. -/
def run {α : Type} (program : Program α) : α × World :=
  program.run answer world

end World

end Ftp.Simulation
