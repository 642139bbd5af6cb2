import Ftp.Proofs.Ownership

/-!
# Conservation of handles

A server keeps exactly the handles that it owns open: those of its listener and of its sessions,
each once. The share of a slot is split off the table (`handles_eq_of_get?`), handed to the session,
and put back with what the session then owns.

* `upholds_ownership`: every deed of the loop keeps what the server owns open, and nothing else;
* `returns_shutdown`: a shutdown leaves no session behind;
* `handles_conserved`: the handles of a server after any calls.
-/

namespace Ftp

open Program

/-! ## The table -/

/-- What the sessions own. -/
def SessionTable.handles (table : SessionTable) : Multiset Handle :=
  (table.sessions.map Session.handles).sum

/-- What a server owns. -/
def Server.handles (server : Server) : Multiset Handle :=
  listenerHandles server.listener + server.sessions.handles

namespace SessionTable

theorem sum_handles_eq {slots : List (Option Session)} {slot : Nat} {session : Session}
    (h : slots[slot]? = some (some session)) :
    ((slots.filterMap id).map Session.handles).sum =
      session.handles + (((slots.set slot none).filterMap id).map Session.handles).sum := by
  induction slots generalizing slot with
  | nil => cases h
  | cons first slots ih =>
    cases slot with
    | zero =>
      rw [List.getElem?_cons_zero, Option.some.injEq] at h
      simp [h]
    | succ slot =>
      rw [List.getElem?_cons_succ] at h
      cases first with
      | none => simpa using ih h
      | some other =>
        simp only [List.set_cons_succ, List.filterMap_cons_some (f := id) rfl, List.map_cons,
          List.sum_cons, ih h]
        abel

/-- What a session owns stands beside what the others own. -/
theorem handles_eq_of_get? {table : SessionTable} {slot : Nat} {session : Session}
    (h : table.get? slot = some session) :
    table.handles = session.handles + (table.erase slot).handles :=
  sum_handles_eq (Option.join_eq_some_iff.1 h)

theorem handles_put {table : SessionTable} {session : Session}
    (h : session.slot < table.capacity) :
    (table.put session).handles = session.handles + (table.erase session.slot).handles := by
  rw [handles_eq_of_get? (get?_put_self table session h)]
  simp [put, erase]

/-- A free slot owns nothing. -/
theorem handles_put_of_get?_eq_none {table : SessionTable} {session : Session}
    (h : session.slot < table.capacity) (hfree : table.get? session.slot = none) :
    (table.put session).handles = session.handles + table.handles := by
  rw [handles_put h, erase_of_get?_eq_none hfree]

theorem control_mem_handles {table : SessionTable} {session : Session}
    (h : session ∈ table.sessions) : Handle.socket session.control ∈ table.handles := by
  obtain ⟨slot, hget⟩ := mem_sessions_iff.1 h
  rw [handles_eq_of_get? hget]
  exact control_mem

end SessionTable

section Table

variable {table : SessionTable} {rest : Multiset Handle}

/-- Closing a session closes what it owns. -/
theorem safe_closeSlot_of_get? {slot : Nat} {session : Session}
    (get : table.get? slot = some session) :
    (Server.closeSlot slot table).Safe ownership (session.handles + rest) fun table' opened =>
      table' = table.erase slot ∧ opened = rest := by
  unfold Server.closeSlot SessionTable.close
  split
  · rename_i hnone
    rw [hnone] at get
    cases get
  · rename_i session' get'
    obtain rfl : session = session' := Option.some.inj (get.symm.trans get')
    simp only [Program.safe_bind]
    refine safe_close session (safe_closePassive _ ?_)
    simp only [Session.handles, listenerHandles, Transmission.handles, add_zero]
    exact safe_closeSocket session.control ⟨rfl, rfl⟩

theorem safe_closeSlot (slot : Nat) (table : SessionTable) :
    (Server.closeSlot slot table).Safe ownership (table.handles + rest) fun table' opened =>
      opened = table'.handles + rest := by
  cases hget : table.get? slot with
  | none =>
    unfold Server.closeSlot SessionTable.close
    rw [hget]
    rfl
  | some session =>
    rw [SessionTable.handles_eq_of_get? hget, add_assoc]
    refine (safe_closeSlot_of_get? hget).mono ?_
    rintro _ _ ⟨rfl, rfl⟩
    rfl

/-- What is open after a client has been accepted is what the table has gained. -/
theorem safe_acceptClient {opened : Multiset Handle} {listener : Socket}
    (h : Handle.socket listener ∈ opened) (table : SessionTable) :
    (Server.acceptClient listener table).Safe ownership opened fun table' opened' =>
      opened' + table.handles = table'.handles + opened := by
  have hdrop : ∀ (socket : Socket),
      (request (.closeSocket socket) >>= fun _ => Program.done table).Safe ownership
        ({.socket socket} + opened) fun table' opened' =>
          opened' + table.handles = table'.handles + opened := fun socket =>
    (Program.safe_bind ..).2 (safe_closeSocket socket (add_comm _ _))
  unfold Server.acceptClient
  rw [Program.safe_bind]
  refine safe_opening (fun _ hmem => List.mem_singleton.1 hmem ▸ h) rfl fun accepted => ?_
  cases accepted with
  | error error =>
    rw [pure_eq, safe_done, add_comm]
    exact congrArg _ (zero_add opened)
  | ok client =>
    refine (steady_plain rfl rfl fun _ => rfl).safe_bind fun admitted => ?_
    cases admitted with
    | false => exact hdrop client.1
    | true =>
      refine (steady_plain rfl rfl fun _ => rfl).safe_bind fun now => ?_
      cases hinsert : table.insert client.1 client.2 now with
      | error error => exact hdrop client.1
      | ok inserted =>
        obtain ⟨slot, table'⟩ := inserted
        obtain ⟨hlt, hfree, rfl⟩ := SessionTable.insert_eq_ok hinsert
        refine Steady.safe_bind (steady_using first_mem rfl rfl fun _ => rfl) fun _ => ?_
        rw [pure_eq, safe_done, SessionTable.handles_put_of_get?_eq_none hlt hfree]
        simp only [Session.handles, listenerHandles, Transmission.handles, Request.gives, add_zero]
        abel

end Table

/-! ## Deeds -/

section Deeds

variable {server : Server}

/-- A program for the session of a slot that leaves it with what it owns. -/
theorem safe_onSession_put {α : Type} (placed : server.sessions.Placed) (slot : Nat)
    {program : Session → Program (α × Session)}
    (hkeeps : ∀ session rest, (program session).Keeps session rest)
    (hslot : ∀ session, (program session).Returns fun result => result.2.slot = session.slot) :
    (server.onSession slot fun session => program session >>= fun result =>
      Program.done (server.sessions.put result.2)).Safe ownership server.handles
        fun server' opened => opened = server'.handles := by
  unfold Server.onSession
  split
  · rfl
  · rename_i session hget
    obtain rfl := placed slot session hget
    have hlt := SessionTable.lt_capacity_of_get? hget
    have hshare : server.handles = session.handles +
        (listenerHandles server.listener + (server.sessions.erase session.slot).handles) := by
      rw [Server.handles, SessionTable.handles_eq_of_get? hget]
      abel
    simp only [Program.safe_bind]
    rw [hshare]
    refine (Safe.and_returns (hkeeps session _) (hslot session)).mono ?_
    rintro ⟨value, session'⟩ _ ⟨rfl, hslot'⟩
    replace hslot' : session'.slot = session.slot := hslot'
    have hput := @SessionTable.handles_put server.sessions session' (hslot' ▸ hlt)
    rw [hslot'] at hput
    simp only [pure_eq, safe_done, Server.handles, hput]
    abel

theorem safe_closeSlot_server (server : Server) (slot : Nat) :
    (Server.closeSlot slot server.sessions).Safe ownership server.handles fun sessions opened =>
      opened = { server with sessions }.handles := by
  have hshare : ∀ sessions : SessionTable, { server with sessions }.handles =
      sessions.handles + listenerHandles server.listener := fun _ => add_comm _ _
  rw [show server.handles = _ from hshare server.sessions]
  exact (safe_closeSlot slot server.sessions).mono fun sessions _ h => h.trans (hshare _).symm

theorem mem_handles_of_listener {listener : Socket} (h : server.listener = some listener) :
    Handle.socket listener ∈ server.handles := by
  simp [Server.handles, listenerHandles, h]

theorem mem_handles_of_watched {listener socket : Socket} (h : server.listener = some listener)
    (hmem : socket ∈ Server.watched listener server.sessions) :
    Handle.socket socket ∈ server.handles := by
  rcases List.mem_cons.1 hmem with rfl | hmem
  · exact mem_handles_of_listener h
  · obtain ⟨session, hsession, rfl⟩ := List.mem_map.1 hmem
    have hopen := SessionTable.control_mem_handles (List.mem_filter.1 hsession).1
    exact Multiset.mem_add.2 (.inr hopen)

/-- Every deed of the loop keeps what the server owns open, and nothing else. -/
theorem upholds_ownership : Upholds ownership fun server opened => opened = server.handles := by
  rintro server _ deed hroutine placed rfl
  cases deed with
  | start | register => cases hroutine
  | advance slot =>
    refine safe_onSession_put placed slot (fun session _ => keeps_step _ session) fun session => ?_
    refine (returns_step _ session).mono ?_
    rintro result ⟨now, transmission, -, h⟩
    rw [h]
  | receive slot =>
    refine safe_onSession_put placed slot (fun session _ => keeps_receive _ session)
      fun session => ?_
    refine (returns_receive _ session).mono ?_
    rintro result ⟨input, h⟩
    rw [h]
  | serve slot =>
    refine safe_onSession_put placed slot (fun session _ => keeps_processInput _ session)
      fun session => ?_
    exact (returns_processInput _ session).mono fun result h => h.sameClient.slot
  | poll =>
    simp only [Server.perform, Server.onListener]
    split
    · rfl
    · rename_i listener hlistener
      rw [Program.safe_bind]
      refine Steady.safe_bind ?_ fun _ => rfl
      refine Steady.bind (steady_request (fun handle hmem => ?_) rfl fun _ => rfl) fun ready => ?_
      · obtain ⟨socket, hsocket, rfl⟩ := List.mem_map.1 hmem
        exact mem_handles_of_watched hlistener hsocket
      · cases ready <;> exact steady_done _
  | accept =>
    simp only [Server.perform, Server.onListener]
    split
    · rfl
    · rename_i listener hlistener
      rw [Program.safe_bind]
      refine (safe_acceptClient (mem_handles_of_listener hlistener) server.sessions).mono ?_
      intro sessions opened h
      refine add_right_cancel (h.trans ?_)
      simp only [Server.handles]
      abel
  | close slot =>
    simp only [Server.perform, Program.safe_bind]
    exact safe_closeSlot_server server slot
  | readClock => exact (steady_plain rfl rfl fun _ => rfl).safe_bind fun _ => rfl
  | expire slot =>
    simp only [Server.perform, Server.onSession]
    split
    · rfl
    · rename_i session hget
      have hcontrol : Handle.socket session.control ∈ server.handles :=
        Multiset.mem_add.2
          (.inr (SessionTable.control_mem_handles (SessionTable.mem_sessions_iff.2 ⟨_, hget⟩)))
      rw [Program.safe_bind]
      refine (steady_say hcontrol _ _).safe_bind fun _ => ?_
      exact safe_closeSlot_server server slot
  | unlisten =>
    simp only [Server.perform, Program.safe_bind]
    unfold Server.handles
    cases server.listener with
    | none => rfl
    | some listener => exact safe_closeSocket listener (zero_add _).symm

end Deeds

/-! ## Calls -/

/-- What is done with a server after it has been started. -/
inductive Call where
  | runOnce
  /-- Creates or replaces an account. -/
  | register (account : Account)
  | shutdown
  deriving DecidableEq, Repr

namespace Server

def call (server : Server) : Call → Program Server
  | .runOnce => do
    let (_, server) ← server.runOnce
    return server
  | .register account => server.perform (.register account)
  | .shutdown => server.shutdown

/-- Makes the calls in order. -/
def callAll (server : Server) : List Call → Program Server
  | [] => return server
  | call :: calls => do
    let server ← server.call call
    server.callAll calls

/-- The server has no listener and no session. -/
structure IsDown (server : Server) : Prop where
  listener : server.listener = none
  sessions : ∀ slot, server.sessions.get? slot = none

end Server

section Calls

variable {server : Server}

theorem SessionTable.sessions_eq_nil_iff {table : SessionTable} :
    table.sessions = [] ↔ ∀ slot, table.get? slot = none := by
  rw [List.eq_nil_iff_forall_not_mem]
  simp only [SessionTable.mem_sessions_iff, not_exists, Option.eq_none_iff_forall_ne_some]
  exact forall_comm

theorem Server.IsDown.handles_eq_zero (h : server.IsDown) : server.handles = 0 := by
  rw [Server.handles, SessionTable.handles, h.listener,
    SessionTable.sessions_eq_nil_iff.2 h.sessions]
  rfl

theorem returns_closeSlots (slots : List Nat) (table : SessionTable) :
    (Server.closeSlots slots table).Returns fun table' =>
      ∀ slot, table'.get? slot = if slot ∈ slots then none else table.get? slot := by
  induction slots generalizing table with
  | nil => simp [Server.closeSlots]
  | cons first slots ih =>
    simp only [Server.closeSlots, returns_bind]
    refine (returns_closeSlot first table).mono ?_
    rintro _ rfl
    refine (ih (table.erase first)).mono fun table' h slot => ?_
    rw [h slot, SessionTable.get?_erase]
    by_cases hfirst : slot = first <;> by_cases hslots : slot ∈ slots <;> simp [hfirst, hslots]

/-- A shutdown leaves neither the listener nor a session behind. -/
theorem returns_shutdown (placed : server.sessions.Placed) :
    server.shutdown.Returns Server.IsDown := by
  unfold Server.shutdown
  rw [returns_bind]
  refine (returns_closeSlots _ server.sessions).mono fun sessions h => ?_
  rw [returns_bind]
  refine returns_of_forall (fun _ => ⟨rfl, fun slot => ?_⟩) _
  rw [h slot, ite_eq_left_iff]
  intro hslot
  rw [Option.eq_none_iff_forall_ne_some]
  intro session hget
  refine hslot (List.mem_map.2 ⟨session, ?_, placed slot session hget⟩)
  exact SessionTable.mem_sessions_iff.2 ⟨slot, hget⟩

/-- Nothing gets a server up again but a start. -/
theorem returns_call_of_isDown (h : server.IsDown) (call : Call) :
    (server.call call).Returns Server.IsDown := by
  cases call with
  | runOnce =>
    have hstill : server.runOnce = .done (.error .notStarted, server) := by
      unfold Server.runOnce
      rw [h.listener]
      rfl
    simp only [Server.call, hstill, done_bind]
    exact h
  | register account =>
    simp only [Server.call, Server.perform]
    split
    · exact ⟨h.listener, h.sessions⟩
    · exact h
  | shutdown =>
    refine returns_shutdown fun slot session hget => ?_
    rw [h.sessions slot] at hget
    cases hget

/-- The server owns what is open. -/
abbrev Owns (server : Server) (opened : Multiset Handle) : Prop :=
  Stands (fun server opened => opened = server.handles) server opened

theorem safe_call {opened : Multiset Handle} (h : Owns server opened) (call : Call) :
    (server.call call).Safe ownership opened fun server opened =>
      Owns server opened ∧ (call = .shutdown → server.IsDown) := by
  cases call with
  | runOnce =>
    simp only [Server.call, Program.safe_bind]
    exact (upholds_ownership.safe_runOnce h).mono fun _ _ h => ⟨h, fun hcall => by cases hcall⟩
  | register account =>
    simp only [Server.call, Server.perform]
    split
    · exact ⟨⟨h.placed, h.holds⟩, fun hcall => by cases hcall⟩
    · exact ⟨h, fun hcall => by cases hcall⟩
  | shutdown =>
    exact ((upholds_ownership.safe_shutdown h).and_returns (returns_shutdown h.placed)).mono
      fun _ _ hpost => ⟨hpost.1, fun _ => hpost.2⟩

theorem safe_callAll {opened : Multiset Handle} (h : Owns server opened) (calls : List Call) :
    (server.callAll calls).Safe ownership opened fun server' opened =>
      Owns server' opened ∧ (server.IsDown ∨ Call.shutdown ∈ calls → server'.IsDown) := by
  induction calls generalizing server opened with
  | nil => exact ⟨h, fun hdown => hdown.resolve_right (by simp)⟩
  | cons call calls ih =>
    simp only [Server.callAll, Program.safe_bind]
    have hdown : (server.call call).Returns fun server' => server.IsDown → server'.IsDown := by
      by_cases hserver : server.IsDown
      · exact (returns_call_of_isDown hserver call).mono fun _ h _ => h
      · exact returns_of_forall (fun _ h => absurd h hserver) _
    refine ((safe_call h call).and_returns hdown).mono ?_
    rintro server' opened' ⟨⟨howns, hshutdown⟩, hstill⟩
    refine (ih howns).mono fun server'' opened'' hpost => ⟨hpost.1, fun hdown => hpost.2 ?_⟩
    rcases hdown with hdown | hmem
    · exact .inl (hstill hdown)
    · rcases List.mem_cons.1 hmem with hcall | hmem
      · exact .inl (hshutdown hcall.symm)
      · exact .inr hmem

theorem safe_start (hlistener : server.listener = none) (placed : server.sessions.Placed) :
    server.start.Safe ownership server.handles fun result opened => Owns result.2 opened := by
  have hhandles : server.handles = server.sessions.handles := by
    rw [Server.handles, hlistener]
    exact zero_add _
  unfold Server.start
  rw [Program.safe_bind, hhandles]
  refine safe_opening (fun _ hmem => nomatch hmem) rfl fun bound => ?_
  cases bound with
  | error cause => exact ⟨placed, hhandles.symm ▸ zero_add _⟩
  | ok listener =>
    refine Steady.safe_bind (steady_using first_mem rfl rfl fun _ => rfl) fun endpoint => ?_
    cases endpoint <;> exact ⟨placed, rfl⟩

/-- Whatever calls are made of a server once it has been started, it uses and closes only what it
has open, what it has open is exactly what its listener and its sessions own, each handle once, and
after a shutdown nothing is open and no session is left. -/
theorem handles_conserved (config : Config) (accounts : Registry) (calls : List Call) :
    ((Server.create config accounts).start >>= fun started => started.2.callAll calls).Safe
      ownership 0 fun server opened =>
        opened = server.handles ∧ opened.Nodup ∧
          (Call.shutdown ∈ calls → opened = 0 ∧ server.sessions.sessions = []) := by
  have hplaced : (Server.create config accounts).sessions.Placed := SessionTable.placed_free _ _
  have hempty : (Server.create config accounts).handles = 0 :=
    Server.IsDown.handles_eq_zero ⟨rfl, fun slot => SessionTable.get?_free _ _ slot⟩
  have hrun : ((Server.create config accounts).start >>= fun started =>
      started.2.callAll calls).Safe ownership 0 fun server opened =>
        Owns server opened ∧ (Call.shutdown ∈ calls → server.IsDown) := by
    rw [Program.safe_bind, ← hempty]
    refine (safe_start rfl hplaced).mono fun started opened howns => ?_
    exact (safe_callAll howns calls).mono fun _ _ hpost => ⟨hpost.1, fun h => hpost.2 (.inr h)⟩
  refine (hrun.nodup Multiset.nodup_zero).mono fun server opened hpost => ?_
  obtain ⟨⟨howns, hdown⟩, hnodup⟩ := hpost
  refine ⟨howns.holds, hnodup, fun hshutdown => ⟨?_, ?_⟩⟩
  · rw [howns.holds]
    exact (hdown hshutdown).handles_eq_zero
  · exact SessionTable.sessions_eq_nil_iff.2 (hdown hshutdown).sessions

end Calls

end Ftp
