import Ftp.Proofs.Reachable

/-!
# The lifetime of a session

A session lives from its admission until its slot is freed. What holds of a session that has just
been admitted, and is kept by every deed, holds of every session in terms of the deeds that it has
lived through.

* `exec_onSession`: a deed for the session of a slot;
* `exec_advance`, `exec_receive`, `exec_serve`: a step of its transfer, what its client has sent,
  and its next line;
* `get?_of_close`: nothing is left of a session that is closed;
* `Reachable.lifetime_induction`: induction over the life of a session.
-/

namespace Ftp

open Program

/-- The slot of the session that a deed is about. -/
def Deed.slot? : Deed → Option Nat
  | .advance slot | .receive slot | .serve slot | .close slot | .expire slot => some slot
  | _ => none

/-- The entries since the session of the slot was admitted, the latest first. -/
def lifetime (slot : Nat) (history : List Entry) : List Entry :=
  history.takeWhile fun entry => (entry.before.sessions.get? slot).isSome

theorem mem_of_mem_lifetime {slot : Nat} {history : List Entry} {entry : Entry}
    (h : entry ∈ lifetime slot history) : entry ∈ history :=
  (List.takeWhile_sublist _).subset h

theorem lifetime_cons_of_get {slot : Nat} {history : List Entry} {entry : Entry}
    {session : Session} (get : entry.before.sessions.get? slot = some session) :
    lifetime slot (entry :: history) = entry :: lifetime slot history :=
  List.takeWhile_cons_of_pos (by rw [get]; rfl)

/-- No session that stands in the slot now has lived through a deed that began without one. -/
theorem lifetime_cons_of_free {slot : Nat} {history : List Entry} {entry : Entry}
    (free : entry.before.sessions.get? slot = none) : lifetime slot (entry :: history) = [] :=
  List.takeWhile_cons_of_neg (by rw [free]; exact Bool.false_ne_true)

/-- A deed about other sessions, or about none, leaves a session with its transfer. -/
theorem Becomes.transmission_eq {setting : Setting} {session session' : Session} {deed : Deed}
    (h : Becomes setting session deed session') (hslot : deed.slot? ≠ some session.slot) :
    session'.transmission = session.transmission := by
  cases h with
  | kept | received => rfl
  | advanced | heard => exact absurd rfl hslot

section Lifetime

variable {history : List Entry} {server server' : Server} {slot : Nat} {session : Session}
  {events : List Event}

/-- A deed for the session of a slot puts back what its program makes of the session. -/
theorem exec_onSession {α : Type} {program : Session → Program (α × Session)}
    (get : server.sessions.get? slot = some session)
    (run : Exec (server.onSession slot fun session => program session >>= fun result =>
      Program.done (server.sessions.put result.2)) events server') :
    ∃ value session', Exec (program session) events (value, session') ∧
      server' = { server with sessions := server.sessions.put session' } := by
  rw [Server.onSession_eq get] at run
  obtain ⟨_, sessions, _, rfl, hput, hdone⟩ := Exec.bind_iff.1 run
  obtain ⟨_, ⟨value, session'⟩, _, rfl, hprogram, hput⟩ := Exec.bind_iff.1 hput
  obtain ⟨rfl, rfl⟩ := exec_done_iff.1 hput
  obtain ⟨rfl, rfl⟩ := exec_done_iff.1 hdone
  exact ⟨value, session', by simpa using hprogram, rfl⟩

/-- The session that is put into the slot of another one stands there. -/
theorem get?_put_of_get? {session' : Session} (placed : server.sessions.Placed)
    (get : server.sessions.get? slot = some session) (same : session.SameClient session') :
    (server.sessions.put session').get? slot = some session' := by
  have hslot : session'.slot = slot := same.slot.trans (placed slot session get)
  rw [← hslot] at get ⊢
  exact SessionTable.get?_put_self _ session' (SessionTable.lt_capacity_of_get? get)

theorem exec_advance (placed : server.sessions.Placed)
    (get : server.sessions.get? slot = some session)
    (run : Exec (server.perform (.advance slot)) events server') :
    ∃ outcome session', Exec (Transfer.step server.setting session) events (outcome, session') ∧
      server'.sessions.get? slot = some session' := by
  obtain ⟨outcome, session', hstep, rfl⟩ := exec_onSession get run
  refine ⟨outcome, session', hstep, get?_put_of_get? placed get ?_⟩
  obtain ⟨now, transmission, -, h⟩ := (returns_step server.setting session).of_exec hstep
  rw [show session' = _ from h]
  exact ⟨rfl, rfl, rfl⟩

theorem exec_receive (placed : server.sessions.Placed)
    (get : server.sessions.get? slot = some session)
    (run : Exec (server.perform (.receive slot)) events server') :
    ∃ alive session', Exec (Server.receive server.setting session) events (alive, session') ∧
      server'.sessions.get? slot = some session' := by
  obtain ⟨alive, session', hreceive, rfl⟩ := exec_onSession get run
  refine ⟨alive, session', hreceive, get?_put_of_get? placed get ?_⟩
  obtain ⟨input, h⟩ := (returns_receive server.setting session).of_exec hreceive
  rw [show session' = _ from h]
  exact ⟨rfl, rfl, rfl⟩

theorem exec_serve (placed : server.sessions.Placed)
    (get : server.sessions.get? slot = some session)
    (run : Exec (server.perform (.serve slot)) events server') :
    ∃ status session',
      Exec (Dispatch.processInput server.setting session) events (status, session') ∧
      server'.sessions.get? slot = some session' := by
  obtain ⟨status, session', hserve, rfl⟩ := exec_onSession get run
  refine ⟨status, session', hserve, get?_put_of_get? placed get ?_⟩
  exact ((returns_processInput server.setting session).of_exec hserve).sameClient

/-- Nothing is done for a slot that no session holds. -/
theorem eq_of_perform_vacant {deed : Deed} (hdeed : deed.slot? = some slot)
    (vacant : server.sessions.get? slot = none)
    (run : Exec (server.perform deed) events server') : events = [] ∧ server' = server := by
  cases deed with
  | start | register | poll | accept | readClock | unlisten => cases hdeed
  | advance | receive | serve | expire =>
    cases hdeed
    simp only [Server.perform, Server.onSession, vacant] at run
    exact exec_done_iff.1 run
  | close =>
    cases hdeed
    simp only [Server.perform, Server.closeSlot, SessionTable.close, vacant] at run
    exact exec_done_iff.1 run

theorem get?_of_close {deed : Deed} (hdeed : deed = .close slot ∨ deed = .expire slot)
    (run : Exec (server.perform deed) events server') : server'.sessions.get? slot = none := by
  have hclose : (Server.closeSlot slot server.sessions).Returns fun sessions =>
      sessions.get? slot = none :=
    (returns_closeSlot slot server.sessions).mono fun sessions h => by
      rw [h, SessionTable.get?_erase_self]
  have hreturns : (server.perform deed).Returns fun server' =>
      server'.sessions.get? slot = none := by
    rcases hdeed with rfl | rfl
    · exact (returns_bind ..).2 hclose
    · simp only [Server.perform, Server.onSession]
      split
      · rename_i hnone
        exact hnone
      · rw [returns_bind, returns_bind, returns_say]
        exact hclose
  exact hreturns.of_exec run

/-- What holds of a session when it is admitted, and is kept by each deed that it lives through,
holds of every session. -/
theorem Reachable.lifetime_induction {P : List Entry → Session → Prop}
    (admitted : ∀ control remote now capacity,
      P [] { slot, control, remote, lastCommand := now, input := { capacity } })
    (lived : ∀ {older : List Entry} {entry : Entry} {session session' : Session}
      {server' : Server}, Reachable older entry.before → P (lifetime slot older) session →
      entry.before.sessions.get? slot = some session →
      Exec (entry.before.perform entry.deed) entry.events server' →
      server'.sessions.get? slot = some session' →
      Becomes entry.before.setting session entry.deed session' →
      P (entry :: lifetime slot older) session')
    (h : Reachable history server) (get : server.sessions.get? slot = some session) :
    P (lifetime slot history) session := by
  refine h.session_induction (P := fun history _ session => P (lifetime slot history) session)
    ?_ ?_ get
  · rintro older entry server - - hfree - - ⟨control, remote, now, capacity, rfl⟩
    rw [lifetime_cons_of_free hfree]
    exact admitted control remote now capacity
  · intro older entry server before after hreachable ih hbefore run hafter hbecomes
    rw [lifetime_cons_of_get hbefore]
    exact lived hreachable ih hbefore run hafter hbecomes

end Lifetime

end Ftp
