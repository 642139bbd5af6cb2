import Ftp.Transfer

/-!
# Session table

A table with a fixed number of slots. A session opens in the lowest free slot, and its slot tells
its passive port.
-/

namespace Ftp

/-- Why a session cannot be opened or found. -/
inductive SessionError where
  | tableFull (slots : Nat)
  | unknownSession (slot : Nat)
  deriving DecidableEq, Repr

def SessionError.message : SessionError → String
  | .tableFull slots => s!"session table is full ({slots} slots)"
  | .unknownSession slot => s!"unknown session {slot}"

structure SessionTable where
  slots : List (Option Session)
  /-- The capacity of each session's line buffer. -/
  lineBufferSize : Nat
  deriving DecidableEq, Repr

namespace SessionTable

/-- A table of free slots. -/
def free (capacity lineBufferSize : Nat) : SessionTable :=
  ⟨List.replicate capacity none, lineBufferSize⟩

/-- What a slot takes of memory, in bytes. -/
def slotSize : Nat := 152

/-- A table of free slots, if so many may be asked for, and the line buffer of a session too. So
`insert` need not ask again. -/
def empty (capacity lineBufferSize : Nat) : Except Panic SessionTable := do
  let _ ← LineBuffer.empty lineBufferSize
  allocate capacity slotSize (free capacity lineBufferSize)

theorem empty_eq_ok_iff {capacity lineBufferSize : Nat} {table : SessionTable} :
    empty capacity lineBufferSize = .ok table ↔
      Allocatable lineBufferSize 1 ∧ Allocatable capacity slotSize ∧
        free capacity lineBufferSize = table := by
  simp only [empty, LineBuffer.empty, Panic.bind_eq_ok_iff, allocate_eq_ok_iff, and_assoc,
    exists_and_left, exists_eq_left']

variable (table : SessionTable)

def capacity : Nat :=
  table.slots.length

/-- The open sessions in the order of their slots. -/
def sessions : List Session :=
  table.slots.filterMap id

def size : Nat :=
  table.sessions.length

def isEmpty : Bool :=
  table.sessions.isEmpty

/-- The occupied slots in order. -/
def occupied : List Nat :=
  table.sessions.map Session.slot

def get? (slot : Nat) : Option Session :=
  table.slots[slot]?.join

/-- Puts the session into its slot. -/
def put (session : Session) : SessionTable :=
  { table with slots := table.slots.set session.slot (some session) }

/-- Frees the slot. -/
def erase (slot : Nat) : SessionTable :=
  { table with slots := table.slots.set slot none }

theorem get?_put_self (session : Session) (h : session.slot < table.capacity) :
    (table.put session).get? session.slot = some session := by
  simp [get?, put, List.getElem?_set_self h]

theorem get?_put_of_ne (session : Session) {slot : Nat} (h : session.slot ≠ slot) :
    (table.put session).get? slot = table.get? slot := by
  simp [get?, put, List.getElem?_set_ne h]

theorem get?_erase_self (slot : Nat) : (table.erase slot).get? slot = none := by
  by_cases h : slot < table.slots.length <;> simp [get?, erase, h]

theorem get?_erase_of_ne {slot other : Nat} (h : slot ≠ other) :
    (table.erase slot).get? other = table.get? other := by
  simp [get?, erase, List.getElem?_set_ne h]

/-- Opens a session in the lowest free slot. -/
def insert (control : Socket) (remote : Endpoint) (now : Int) :
    Except SessionError (Nat × SessionTable) :=
  match table.slots.findIdx? Option.isNone with
  | none => .error (.tableFull table.capacity)
  | some slot =>
    .ok (slot, table.put
      { slot, control, remote, lastCommand := now, input := { capacity := table.lineBufferSize } })

/-- Logs the session of the slot in. -/
def authenticate (slot : Nat) : Except SessionError SessionTable :=
  match table.get? slot with
  | some session => .ok (table.put session.authenticate)
  | none => .error (.unknownSession slot)

/-- The slots of the sessions with a transfer. -/
def transferring : List Nat :=
  (table.sessions.filter Session.isTransferring).map Session.slot

/-- The number of sessions with a transfer. -/
def transferCount : Nat :=
  table.sessions.countP Session.isTransferring

/-- Some session has received a complete line. -/
def hasPendingLines : Bool :=
  table.sessions.any fun session => session.input.hasLine

/-- The slot of the session with the control connection. -/
def findByControl? (control : Socket) : Option Nat :=
  (table.sessions.find? fun session => session.control = control).map Session.slot

/-- Closes the session of the slot with everything that it owns, and frees the slot. Tells whether
there was one. -/
def close (slot : Nat) : Program (Bool × SessionTable) :=
  match table.get? slot with
  | none => return (false, table)
  | some session => do
    let session ← Transfer.close session
    let session ← DataChannel.closePassive session
    .request (.closeSocket session.control)
    return (true, table.erase slot)

end SessionTable

end Ftp
