import Ftp.Proofs.Change
import Ftp.Server
import Ftp.Simulation.World

/-!
# Reachable servers

What happens to a server, taken apart into deeds: between two of them every session stands in its
slot and nothing is half done. A server is reachable by any deeds in any order; in particular by
those that the loop strings together.

* `returns_perform`: what each deed makes of a server;
* `Outcome.get?_eq_some`: where a session of the server comes from;
* `Reachable.placed`: each session stands in the slot that it names;
* `Reachable.session_induction`: induction over what happens to one session;
* `Upholds.safe_runOnce`, `Upholds.safe_shutdown`: what every deed keeps, a pass and a shutdown
  keep;
* `Reachable.of_runOnce`, `Reachable.of_shutdown`: their runs are made of deeds.
-/

namespace Ftp

open Program

/-- One thing that happens to a server. -/
inductive Deed where
  | start
  /-- An account is created or replaced. -/
  | register (account : Account)
  /-- Takes a step of a transfer. -/
  | advance (slot : Nat)
  | poll
  /-- Accepts a client. -/
  | accept
  /-- Takes what a client has sent. -/
  | receive (slot : Nat)
  /-- Serves the next line of a session. -/
  | serve (slot : Nat)
  | close (slot : Nat)
  | readClock
  /-- Takes leave of a session and closes it. -/
  | expire (slot : Nat)
  /-- Closes the control listener. -/
  | unlisten
  deriving DecidableEq, Repr

/-- The loop does it, over and over. -/
def Deed.isRoutine : Deed → Bool
  | .start | .register _ => false
  | _ => true

namespace Server

/-- Goes on with the session of the slot, if there is one. -/
def onSession (server : Server) (slot : Nat) (next : Session → Program SessionTable) :
    Program Server :=
  match server.sessions.get? slot with
  | none => return server
  | some session => do
    let sessions ← next session
    return { server with sessions }

/-- Goes on with the control listener, if there is one. -/
def onListener (server : Server) (next : Socket → Program SessionTable) : Program Server :=
  match server.listener with
  | none => return server
  | some listener => do
    let sessions ← next listener
    return { server with sessions }

theorem onSession_eq {server : Server} {slot : Nat} {session : Session}
    (h : server.sessions.get? slot = some session) (next : Session → Program SessionTable) :
    server.onSession slot next =
      next session >>= fun sessions => return { server with sessions } := by
  rw [onSession, h]

theorem onListener_eq {server : Server} {listener : Socket} (h : server.listener = some listener)
    (next : Socket → Program SessionTable) :
    server.onListener next = next listener >>= fun sessions => return { server with sessions } := by
  unfold onListener
  split
  · rename_i hnone
    rw [h] at hnone; cases hnone
  · rename_i listener' h'
    rw [h] at h'; cases h'
    rfl

def perform (server : Server) : Deed → Program Server
  | .start => do
    let (_, server) ← server.start
    return server
  | .register account =>
    match server.accounts.create account with
    | .ok (_, accounts) => return { server with accounts }
    | .error _ => return server
  | .advance slot => server.onSession slot fun session => do
    let (_, session) ← Transfer.step server.setting session
    return server.sessions.put session
  | .poll => server.onListener fun listener => do
    let _ ← pollReady (watched listener server.sessions) (pollWait server.config server.sessions)
    return server.sessions
  | .accept => server.onListener fun listener => acceptClient listener server.sessions
  | .receive slot => server.onSession slot fun session => do
    let (_, session) ← Server.receive server.setting session
    return server.sessions.put session
  | .serve slot => server.onSession slot fun session => do
    let (_, session) ← Dispatch.processInput server.setting session
    return server.sessions.put session
  | .close slot => do
    let sessions ← closeSlot slot server.sessions
    return { server with sessions }
  | .readClock => do
    let _ ← .request .unixTime
    return server
  | .expire slot => server.onSession slot fun session => do
    session.say 421 "Timeout."
    closeSlot slot server.sessions
  | .unlisten => do
    DataChannel.closeListener server.listener
    return { server with listener := none }

/-- Performs the deeds in order. -/
def performAll (server : Server) : List Deed → Program Server
  | [] => return server
  | deed :: deeds => do
    let server ← server.perform deed
    server.performAll deeds

end Server

/-- A deed in the past of a server, with the server before it and all that was asked and answered
in it. -/
structure Entry where
  before : Server
  deed : Deed
  events : List Event

/-- The deeds lead from one server to the other. The latest deed stands first. -/
inductive Leads (start : Server) : List Entry → Server → Prop
  | nil : Leads start [] start
  | cons {history : List Entry} {server server' : Server} {deed : Deed} {events : List Event}
    (leads : Leads start history server) (run : Exec (server.perform deed) events server') :
    Leads start (⟨server, deed, events⟩ :: history) server'

/-- The server can come about, and this is its past. -/
def Reachable (history : List Entry) (server : Server) : Prop :=
  ∃ config accounts, Leads (.create config accounts) history server

/-! ## Slots -/

namespace SessionTable

/-- Each session stands in the slot that it names. -/
def Placed (table : SessionTable) : Prop :=
  ∀ slot session, table.get? slot = some session → session.slot = slot

theorem placed_free (capacity lineBufferSize : Nat) :
    (SessionTable.free capacity lineBufferSize).Placed := by
  intro slot session h
  by_cases hslot : slot < capacity <;> simp [get?, free, hslot] at h

theorem get?_free (capacity lineBufferSize slot : Nat) :
    (SessionTable.free capacity lineBufferSize).get? slot = none := by
  by_cases hslot : slot < capacity <;> simp [get?, free, hslot]

theorem lt_capacity_of_get? {table : SessionTable} {slot : Nat} {session : Session}
    (h : table.get? slot = some session) : slot < table.capacity := by
  rw [get?, Option.join_eq_some_iff] at h
  exact (List.getElem?_eq_some_iff.1 h).1

theorem get?_put {table : SessionTable} {session : Session} (h : session.slot < table.capacity)
    (slot : Nat) :
    (table.put session).get? slot =
      if slot = session.slot then some session else table.get? slot := by
  split
  · rename_i hslot
    rw [hslot, get?_put_self table session h]
  · rename_i hslot
    exact get?_put_of_ne table session (Ne.symm hslot)

theorem get?_erase (table : SessionTable) (slot other : Nat) :
    (table.erase slot).get? other = if other = slot then none else table.get? other := by
  split
  · rename_i hslot
    rw [hslot, get?_erase_self]
  · rename_i hslot
    exact get?_erase_of_ne table (Ne.symm hslot)

theorem put_put (table : SessionTable) {session session' : Session}
    (h : session'.slot = session.slot) : (table.put session).put session' = table.put session' := by
  simp [put, h, List.set_set]

/-- Putting a session where it stands changes nothing. -/
theorem put_of_get? {table : SessionTable} {session : Session}
    (h : table.get? session.slot = some session) : table.put session = table := by
  obtain ⟨slots, lineBufferSize⟩ := table
  obtain ⟨hlt, h⟩ := List.getElem?_eq_some_iff.1 (Option.join_eq_some_iff.1 h)
  rw [put, SessionTable.mk.injEq]
  refine ⟨?_, rfl⟩
  have hset := List.set_getElem_self hlt
  rwa [h] at hset

/-- Nothing stands in the slot, so that freeing it changes nothing. -/
theorem erase_of_get?_eq_none {table : SessionTable} {slot : Nat} (h : table.get? slot = none) :
    table.erase slot = table := by
  obtain ⟨slots, lineBufferSize⟩ := table
  rw [erase, SessionTable.mk.injEq]
  refine ⟨?_, rfl⟩
  by_cases hlt : slot < slots.length
  · have hset := List.set_getElem_self hlt
    rw [get?, List.getElem?_eq_getElem hlt, Option.join_some] at h
    rwa [h] at hset
  · exact List.set_eq_of_length_le (Nat.le_of_not_lt hlt)

theorem mem_sessions_iff {table : SessionTable} {session : Session} :
    session ∈ table.sessions ↔ ∃ slot, table.get? slot = some session := by
  simp only [sessions, List.mem_filterMap, id, get?]
  constructor
  · rintro ⟨_, h, rfl⟩
    obtain ⟨slot, h⟩ := List.mem_iff_getElem?.1 h
    exact ⟨slot, by rw [h]; rfl⟩
  · rintro ⟨slot, h⟩
    exact ⟨_, List.mem_of_getElem? (Option.join_eq_some_iff.1 h), rfl⟩

/-- A session that opens stands in a slot that was free. -/
theorem insert_eq_ok {table table' : SessionTable} {control : Socket} {remote : Endpoint}
    {now : Int} {slot : Nat} (h : table.insert control remote now = .ok (slot, table')) :
    slot < table.capacity ∧ table.get? slot = none ∧
      table' = table.put
        { slot, control, remote, lastCommand := now
          input := { capacity := table.lineBufferSize } } := by
  unfold insert at h
  split at h
  · cases h
  · rename_i free hfree
    obtain ⟨hlt, hnone, -⟩ := List.findIdx?_eq_some_iff_getElem.1 hfree
    cases h
    refine ⟨hlt, ?_, rfl⟩
    rw [get?, List.getElem?_eq_getElem hlt]
    simpa using hnone

end SessionTable

/-! ## What a deed makes of a server -/

/-- What a deed may make of a session. -/
inductive Becomes (setting : Setting) (session : Session) : Deed → Session → Prop
  | kept (deed : Deed) : Becomes setting session deed session
  | advanced {now : Int} {transmission : Transmission}
    (h : session.transmission.Advances transmission) :
    Becomes setting session (.advance session.slot)
      { session with lastCommand := now, transmission }
  | received (input : LineBuffer) :
    Becomes setting session (.receive session.slot) { session with input }
  | heard {session' : Session} (h : Heard setting session session') :
    Becomes setting session (.serve session.slot) session'

theorem Becomes.sameClient {setting : Setting} {session session' : Session} {deed : Deed}
    (h : Becomes setting session deed session') : session.SameClient session' := by
  cases h with
  | heard h => exact h.sameClient
  | _ => exact ⟨rfl, rfl, rfl⟩

/-- What a deed may make of a server. -/
inductive Outcome (server : Server) : Deed → Server → Prop
  | nothing (deed : Deed) : Outcome server deed server
  | started (listener : Socket) : Outcome server .start { server with listener := some listener }
  | registered {account : Account} {id : AccountId} {accounts : Registry}
    (h : server.accounts.create account = .ok (id, accounts)) :
    Outcome server (.register account) { server with accounts }
  | admitted {control : Socket} {remote : Endpoint} {now : Int} {slot : Nat}
    {sessions : SessionTable}
    (h : server.sessions.insert control remote now = .ok (slot, sessions)) :
    Outcome server .accept { server with sessions }
  | changed {deed : Deed} {session session' : Session}
    (get : server.sessions.get? session.slot = some session)
    (h : Becomes server.setting session deed session') :
    Outcome server deed { server with sessions := server.sessions.put session' }
  | closed {deed : Deed} {slot : Nat} (h : deed = .close slot ∨ deed = .expire slot) :
    Outcome server deed { server with sessions := server.sessions.erase slot }
  | unlistened : Outcome server .unlisten { server with listener := none }

theorem returns_closeSlot (slot : Nat) (table : SessionTable) :
    (Server.closeSlot slot table).Returns fun table' => table' = table.erase slot := by
  unfold Server.closeSlot SessionTable.close
  split
  · rename_i hnone
    exact (SessionTable.erase_of_get?_eq_none hnone).symm
  · simp only [returns_bind]
    refine returns_of_forall (fun _ => returns_of_forall (fun _ => ?_) _) _
    simp only [request, returns_ask]
    exact fun _ => rfl

theorem returns_receive (setting : Setting) (session : Session) :
    (Server.receive setting session).Returns fun result =>
      ∃ input, result.2 = { session with input } := by
  have hsame : ∃ input, session = { session with input } := ⟨session.input, rfl⟩
  simp only [Server.receive]
  split
  · exact hsame
  · simp only [request, ask_bind, done_bind, returns_ask]
    intro received
    cases received with
    | ok chunk =>
      simp only []
      split
      · exact hsame
      · exact ⟨_, rfl⟩
    | error error =>
      simp only []
      split <;> exact hsame

theorem returns_acceptClient (listener : Socket) (table : SessionTable) :
    (Server.acceptClient listener table).Returns fun table' =>
      table' = table ∨
        ∃ control remote now slot, table.insert control remote now = .ok (slot, table') := by
  simp only [Server.acceptClient, request, ask_bind, done_bind, returns_ask]
  intro accepted
  cases accepted with
  | error error => exact .inl rfl
  | ok client =>
    simp only [returns_ask]
    intro admitted
    cases admitted with
    | false => simp
    | true =>
      simp only [if_true, Server.welcome, request, ask_bind, done_bind, returns_ask]
      intro now
      cases hinsert : table.insert client.1 client.2 now with
      | error error => simp
      | ok opened =>
        simp only [returns_ask]
        exact fun _ => .inr ⟨_, _, _, _, hinsert⟩

section Perform

variable {server : Server}

theorem returns_onSession {slot : Nat} {next : Session → Program SessionTable}
    {post : Server → Prop} (hnone : post server)
    (hnext : ∀ session, server.sessions.get? slot = some session →
      (next session).Returns fun sessions => post { server with sessions }) :
    (server.onSession slot next).Returns post := by
  unfold Server.onSession
  split
  · exact hnone
  · rename_i session hget
    rw [returns_bind]
    exact hnext session hget

theorem returns_onListener {next : Socket → Program SessionTable} {post : Server → Prop}
    (hnone : post server)
    (hnext : ∀ listener, (next listener).Returns fun sessions => post { server with sessions }) :
    (server.onListener next).Returns post := by
  unfold Server.onListener
  split
  · exact hnone
  · rw [returns_bind]
    exact hnext _

theorem returns_perform (placed : server.sessions.Placed) (deed : Deed) :
    (server.perform deed).Returns fun server' => Outcome server deed server' := by
  cases deed with
  | start =>
    simp only [Server.perform, Server.start, request, ask_bind, done_bind, returns_ask]
    intro bound
    cases bound with
    | error cause => exact .nothing _
    | ok listener =>
      simp only [ask_bind, returns_ask]
      intro endpoint
      cases endpoint <;> exact .started listener
  | register account =>
    simp only [Server.perform]
    split
    · rename_i h
      exact .registered h
    · exact .nothing _
  | advance slot =>
    refine returns_onSession (.nothing _) fun session hget => ?_
    obtain rfl := placed slot session hget
    rw [returns_bind]
    refine (returns_step _ session).mono ?_
    rintro ⟨outcome, session'⟩ ⟨now, transmission, h, rfl⟩
    exact .changed hget (.advanced h)
  | poll =>
    refine returns_onListener (.nothing _) fun listener => ?_
    rw [returns_bind]
    exact returns_of_forall (fun _ => .nothing _) _
  | accept =>
    refine returns_onListener (.nothing _) fun listener => ?_
    refine (returns_acceptClient listener server.sessions).mono ?_
    rintro sessions (rfl | ⟨control, remote, now, slot, h⟩)
    · exact .nothing _
    · exact .admitted h
  | receive slot =>
    refine returns_onSession (.nothing _) fun session hget => ?_
    obtain rfl := placed slot session hget
    rw [returns_bind]
    refine (returns_receive _ session).mono ?_
    rintro ⟨alive, session'⟩ ⟨input, rfl⟩
    exact .changed hget (.received input)
  | serve slot =>
    refine returns_onSession (.nothing _) fun session hget => ?_
    obtain rfl := placed slot session hget
    rw [returns_bind]
    exact (returns_processInput _ session).mono fun result h => .changed hget (.heard h)
  | close slot =>
    simp only [Server.perform, returns_bind]
    exact (returns_closeSlot slot _).mono fun sessions h => h ▸ .closed (.inl rfl)
  | readClock =>
    simp only [Server.perform, request, ask_bind, done_bind, returns_ask]
    exact fun _ => .nothing _
  | expire slot =>
    refine returns_onSession (.nothing _) fun session _ => ?_
    rw [returns_bind, returns_say]
    exact (returns_closeSlot slot _).mono fun sessions h => h ▸ .closed (.inr rfl)
  | unlisten =>
    simp only [Server.perform, returns_bind]
    exact returns_of_forall (fun _ => .unlistened) _

/-- A session of the server after a deed was there before it, or has just been admitted. -/
theorem Outcome.get?_eq_some {server' : Server} {deed : Deed} (h : Outcome server deed server')
    {slot : Nat} {session' : Session} (hget : server'.sessions.get? slot = some session') :
    (∃ session, server.sessions.get? slot = some session ∧
        Becomes server.setting session deed session') ∨
      (deed = .accept ∧ server.sessions.get? slot = none ∧ ∃ control remote now capacity,
        session' = { slot, control, remote, lastCommand := now, input := { capacity } }) := by
  cases h with
  | nothing | started | registered | unlistened => exact .inl ⟨session', hget, .kept _⟩
  | admitted hinsert =>
    obtain ⟨hlt, hnone, rfl⟩ := SessionTable.insert_eq_ok hinsert
    rw [SessionTable.get?_put hlt] at hget
    split at hget
    · rename_i hslot
      cases hslot; cases hget
      exact .inr ⟨rfl, hnone, _, _, _, _, rfl⟩
    · exact .inl ⟨session', hget, .kept _⟩
  | @changed _ session changed get hbecomes =>
    have hslot := hbecomes.sameClient.slot
    have hlt := SessionTable.lt_capacity_of_get? get
    rw [SessionTable.get?_put (hslot ▸ hlt)] at hget
    split at hget
    · rename_i heq
      rw [heq, hslot]
      cases hget
      exact .inl ⟨session, get, hbecomes⟩
    · exact .inl ⟨session', hget, .kept _⟩
  | closed =>
    rw [SessionTable.get?_erase] at hget
    split at hget
    · cases hget
    · exact .inl ⟨session', hget, .kept _⟩

theorem Outcome.placed {server' : Server} {deed : Deed} (h : Outcome server deed server')
    (placed : server.sessions.Placed) : server'.sessions.Placed := by
  intro slot session' hget
  rcases h.get?_eq_some hget with ⟨session, hbefore, hbecomes⟩ | ⟨_, _, _, _, _, _, rfl⟩
  · rw [hbecomes.sameClient.slot]
    exact placed slot session hbefore
  · rfl

end Perform

/-! ## What the loop strings together -/

section Loop

variable {World : Type} {m : Monitor World} {I : Server → World → Prop}

/-- Every deed of the loop keeps `I`. -/
def Upholds (m : Monitor World) (I : Server → World → Prop) : Prop :=
  ∀ server w deed, deed.isRoutine = true → server.sessions.Placed → I server w →
    (server.perform deed).Safe m w I

/-- `I` holds of the server, whose sessions stand in their slots. -/
structure Stands (I : Server → World → Prop) (server : Server) (w : World) : Prop where
  placed : server.sessions.Placed
  holds : I server w

variable {server : Server} {w : World}

theorem Upholds.safe_perform (h : Upholds m I) (deed : Deed) (hroutine : deed.isRoutine = true)
    (hI : Stands I server w) : (server.perform deed).Safe m w (Stands I) := by
  have hplaced := (returns_perform hI.placed deed).mono fun _ ho => ho.placed hI.placed
  exact ((h server w deed hroutine hI.placed hI.holds).and_returns hplaced).mono
    fun _ _ hpost => ⟨hpost.2, hpost.1⟩

/-- The sessions that a part of the loop leaves behind, as a server. -/
abbrev Stands.with (I : Server → World → Prop) (server : Server) (sessions : SessionTable)
    (w : World) : Prop :=
  Stands I { server with sessions } w

theorem Upholds.safe_stepTransfers (h : Upholds m I) (slots : List Nat)
    (hI : Stands I server w) :
    (Server.stepTransfers server.setting slots server.sessions).Safe m w
      (Stands.with I server) := by
  induction slots generalizing server w with
  | nil => exact hI
  | cons slot slots ih =>
    simp only [Server.stepTransfers]
    cases hget : server.sessions.get? slot with
    | none => exact ih hI
    | some session =>
      have hstep := h.safe_perform (.advance slot) rfl hI
      simp only [Server.perform, Server.onSession_eq hget, safe_bind, pure_eq, safe_done] at hstep ⊢
      exact hstep.mono fun result w hI' => ih hI'

theorem Upholds.safe_closeSlot (h : Upholds m I) (slot : Nat) (hI : Stands I server w) :
    (Server.closeSlot slot server.sessions).Safe m w (Stands.with I server) := by
  have hclose := h.safe_perform (.close slot) rfl hI
  simpa only [Server.perform, safe_bind, pure_eq, safe_done] using hclose

theorem Upholds.safe_serveLine (h : Upholds m I) {session : Session}
    (hslot : session.slot < server.sessions.capacity)
    (hI : Stands.with I server (server.sessions.put session) w) :
    (Server.serveLine server.setting session server.sessions).Safe m w
      (Stands.with I server) := by
  have hserve := h.safe_perform (.serve session.slot) rfl hI
  have hget : ({ server with sessions := server.sessions.put session } : Server).sessions.get?
      session.slot = some session := SessionTable.get?_put_self server.sessions session hslot
  simp only [Server.perform, Server.onSession_eq hget, safe_bind, pure_eq, safe_done] at hserve
  have hclient := (returns_processInput server.setting session).mono fun _ hh => hh.sameClient
  simp only [Server.serveLine, safe_bind]
  refine (hserve.and_returns hclient).mono ?_
  rintro ⟨status, session'⟩ w ⟨hI', hclient⟩
  have hput := SessionTable.put_put server.sessions hclient.slot
  replace hI' : Stands.with I server (server.sessions.put session') w := by
    rw [← hput]; exact hI'
  cases status with
  | close => exact h.safe_closeSlot session'.slot hI'
  | success | failure => exact hI'

theorem Upholds.safe_serve (h : Upholds m I) (ready : List Socket) {slot : Nat} {session : Session}
    (hget : server.sessions.get? slot = some session) (hI : Stands I server w) :
    (Server.serve server.setting ready session server.sessions).Safe m w
      (Stands.with I server) := by
  obtain rfl := hI.placed slot session hget
  have hslot := SessionTable.lt_capacity_of_get? hget
  unfold Server.serve
  split
  · have hreceive := h.safe_perform (.receive session.slot) rfl hI
    simp only [Server.perform, Server.onSession_eq hget, safe_bind, pure_eq, safe_done] at hreceive
    have hsame := returns_receive server.setting session
    rw [safe_bind]
    refine (hreceive.and_returns hsame).mono ?_
    rintro ⟨alive, session'⟩ w ⟨hI', input, rfl⟩
    cases alive with
    | true => exact h.safe_serveLine hslot hI'
    | false => exact h.safe_closeSlot session.slot hI'
  · refine h.safe_serveLine hslot ?_
    rw [SessionTable.put_of_get? hget]
    exact hI

theorem Upholds.safe_serveAll (h : Upholds m I) (ready : List Socket) (slots : List Nat)
    (hI : Stands I server w) :
    (Server.serveAll server.setting ready slots server.sessions).Safe m w
      (Stands.with I server) := by
  induction slots generalizing server w with
  | nil => exact hI
  | cons slot slots ih =>
    simp only [Server.serveAll]
    cases hget : server.sessions.get? slot with
    | none => exact ih hI
    | some session =>
      simp only [safe_bind]
      exact (h.safe_serve ready hget hI).mono fun sessions w hI' => ih hI'

theorem Upholds.safe_expire (h : Upholds m I) (slots : List Nat) (hI : Stands I server w) :
    (Server.expire slots server.sessions).Safe m w (Stands.with I server) := by
  induction slots generalizing server w with
  | nil => exact hI
  | cons slot slots ih =>
    simp only [Server.expire]
    cases hget : server.sessions.get? slot with
    | none => exact ih hI
    | some session =>
      have hleave := h.safe_perform (.expire slot) rfl hI
      simp only [Server.perform, Server.onSession_eq hget, safe_bind, pure_eq,
        safe_done] at hleave ⊢
      exact hleave.mono fun _ w hclose => hclose.mono fun sessions w hI' => ih hI'

theorem Upholds.safe_acceptIfReady (h : Upholds m I) (hI : Stands I server w) {listener : Socket}
    (hlistener : server.listener = some listener) (ready : List Socket) :
    (Server.acceptIfReady listener ready server.sessions).Safe m w (Stands.with I server) := by
  unfold Server.acceptIfReady
  split
  · have hadmit := h.safe_perform .accept rfl hI
    simpa only [Server.perform, Server.onListener_eq hlistener, safe_bind, pure_eq,
      safe_done] using hadmit
  · exact hI

theorem Upholds.safe_pollReady (h : Upholds m I) (hI : Stands I server w) {listener : Socket}
    (hlistener : server.listener = some listener) :
    (Server.pollReady (Server.watched listener server.sessions)
      (Server.pollWait server.config server.sessions)).Safe m w fun _ w => Stands I server w := by
  have hpoll := h.safe_perform .poll rfl hI
  simpa only [Server.perform, Server.onListener_eq hlistener, safe_bind, pure_eq,
    safe_done] using hpoll

/-- What every deed of the loop keeps, a pass keeps. -/
theorem Upholds.safe_pass (h : Upholds m I) {listener : Socket}
    (hlistener : server.listener = some listener) (hI : Stands I server w) :
    (Server.pass server.setting listener server.sessions).Safe m w (Stands.with I server) := by
  unfold Server.pass
  rw [safe_bind]
  refine (h.safe_stepTransfers _ hI).mono fun sessions w hI => ?_
  rw [safe_bind]
  refine (h.safe_pollReady hI hlistener).mono fun ready w hI => ?_
  rw [safe_bind]
  refine (h.safe_acceptIfReady hI hlistener ready).mono fun sessions w hI => ?_
  rw [safe_bind]
  refine (h.safe_serveAll ready _ hI).mono fun sessions w hI => ?_
  have hclock := h.safe_perform .readClock rfl hI
  simp only [Server.perform, safe_bind, pure_eq, safe_done] at hclock ⊢
  exact hclock.mono fun now w hI => h.safe_expire _ hI

theorem Upholds.safe_runOnce (h : Upholds m I) (hI : Stands I server w) :
    server.runOnce.Safe m w fun result w => Stands I result.2 w := by
  unfold Server.runOnce
  split
  · exact hI
  · rename_i listener hlistener
    rw [safe_bind]
    exact h.safe_pass hlistener hI

theorem Upholds.safe_closeSlots (h : Upholds m I) (slots : List Nat) (hI : Stands I server w) :
    (Server.closeSlots slots server.sessions).Safe m w (Stands.with I server) := by
  induction slots generalizing server w with
  | nil => exact hI
  | cons slot slots ih =>
    simp only [Server.closeSlots, safe_bind]
    exact (h.safe_closeSlot slot hI).mono fun sessions w hI' => ih hI'

theorem Upholds.safe_shutdown (h : Upholds m I) (hI : Stands I server w) :
    server.shutdown.Safe m w (Stands I) := by
  unfold Server.shutdown
  rw [safe_bind]
  refine (h.safe_closeSlots _ hI).mono fun sessions w hI' => ?_
  exact h.safe_perform .unlisten rfl hI'

end Loop

/-! ## Runs of the loop -/

/-- All that was asked and answered, in order. -/
def eventsOf (history : List Entry) : List Event :=
  history.reverse.flatMap Entry.events

@[simp] theorem eventsOf_nil : eventsOf [] = [] := rfl

@[simp] theorem eventsOf_cons (entry : Entry) (history : List Entry) :
    eventsOf (entry :: history) = eventsOf history ++ entry.events := by
  simp [eventsOf]

theorem eventsOf_append (newer older : List Entry) :
    eventsOf (newer ++ older) = eventsOf older ++ eventsOf newer := by
  simp [eventsOf]

/-- Each event of a history stands in one of its entries. -/
theorem exists_entry_of_mem {history : List Entry} {event : Event}
    (hmem : event ∈ eventsOf history) :
    ∃ newer entry older, history = newer ++ entry :: older ∧ event ∈ entry.events := by
  obtain ⟨entry, hentry, hevent⟩ := List.mem_flatMap.1 hmem
  obtain ⟨newer, older, heq⟩ := List.append_of_mem (List.mem_reverse.1 hentry)
  exact ⟨newer, entry, older, heq, hevent⟩

theorem Leads.append {start middle server : Server} {before after : List Entry}
    (h : Leads start before middle) (h' : Leads middle after server) :
    Leads start (after ++ before) server := by
  induction h' with
  | nil => exact h
  | cons _ run ih => exact .cons ih run

theorem Leads.of_append {start server : Server} {newer older : List Entry}
    (h : Leads start (newer ++ older) server) :
    ∃ middle, Leads start older middle ∧ Leads middle newer server := by
  induction newer generalizing server with
  | nil => exact ⟨server, h, .nil⟩
  | cons entry newer ih =>
    cases h with
    | cons hleads run =>
      obtain ⟨middle, holder, hnewer⟩ := ih hleads
      exact ⟨middle, holder, hnewer.cons run⟩

/-- The part of some deeds before one of them, and the run of that one. -/
theorem Leads.of_append_cons {start server : Server} {newer older : List Entry} {entry : Entry}
    (h : Leads start (newer ++ entry :: older) server) :
    Leads start older entry.before ∧
      ∃ server', Exec (entry.before.perform entry.deed) entry.events server' := by
  obtain ⟨middle, holder, -⟩ := h.of_append
  cases holder with
  | cons leads run => exact ⟨leads, middle, run⟩

theorem Reachable.append {server server' : Server} {history recent : List Entry}
    (h : Reachable history server) (hleads : Leads server recent server') :
    Reachable (recent ++ history) server' := by
  obtain ⟨config, accounts, hstart⟩ := h
  exact ⟨config, accounts, hstart.append hleads⟩

theorem Leads.placed {start server : Server} {history : List Entry}
    (h : Leads start history server) (hstart : start.sessions.Placed) :
    server.sessions.Placed := by
  induction h with
  | nil => exact hstart
  | cons _ run ih => exact ((returns_perform ih _).of_exec run).placed ih

theorem Reachable.placed {server : Server} {history : List Entry} (h : Reachable history server) :
    server.sessions.Placed := by
  obtain ⟨config, accounts, hleads⟩ := h
  exact hleads.placed (SessionTable.placed_free _ _)

/-- The part of a history before its latest entry, and the run of that deed. -/
theorem Reachable.of_cons {server : Server} {older : List Entry} {entry : Entry}
    (h : Reachable (entry :: older) server) :
    Reachable older entry.before ∧ Exec (entry.before.perform entry.deed) entry.events server := by
  obtain ⟨config, accounts, hleads⟩ := h
  cases hleads with
  | cons hleads run => exact ⟨⟨config, accounts, hleads⟩, run⟩

/-- What the next deed has made of a reachable server. -/
theorem Reachable.outcome {server server' : Server} {history : List Entry} {deed : Deed}
    {events : List Event} (h : Reachable history server)
    (run : Exec (server.perform deed) events server') : Outcome server deed server' :=
  (returns_perform h.placed deed).of_exec run

/-- What holds of a session right after its admission, and is kept by each deed that it lives
through, holds of every session of a reachable server. -/
theorem Reachable.session_induction {P : List Entry → Server → Session → Prop} {slot : Nat}
    (admitted : ∀ {older : List Entry} {entry : Entry} {server : Server} {session : Session},
      entry.deed = .accept → entry.before.sessions.get? slot = none →
      Exec (entry.before.perform entry.deed) entry.events server →
      server.sessions.get? slot = some session →
      (∃ control remote now capacity, session =
        { slot, control, remote, lastCommand := now, input := { capacity } }) →
      P (entry :: older) server session)
    (lived : ∀ {older : List Entry} {entry : Entry} {server : Server}
      {session session' : Session}, Reachable older entry.before →
      P older entry.before session → entry.before.sessions.get? slot = some session →
      Exec (entry.before.perform entry.deed) entry.events server →
      server.sessions.get? slot = some session' →
      Becomes entry.before.setting session entry.deed session' →
      P (entry :: older) server session')
    {server : Server} {history : List Entry} {session : Session} (h : Reachable history server)
    (get : server.sessions.get? slot = some session) : P history server session := by
  induction history generalizing server session with
  | nil =>
    obtain ⟨config, accounts, hleads⟩ := h
    cases hleads
    rw [Server.create, SessionTable.get?_free] at get
    cases get
  | cons entry older ih =>
    obtain ⟨hreachable, run⟩ := h.of_cons
    rcases (hreachable.outcome run).get?_eq_some get with
      ⟨before, hbefore, hbecomes⟩ | ⟨hdeed, hfree, hnew⟩
    · exact lived hreachable (ih hreachable hbefore) hbefore run get hbecomes
    · exact admitted hdeed hfree run get hnew

/-- The recorded events are those of deeds that lead to the server. -/
theorem upholds_record (start : Server) :
    Upholds .record fun server events =>
      ∃ history, Leads start history server ∧ eventsOf history = events := by
  rintro server w deed - - ⟨history, hleads, rfl⟩
  refine (safe_record (server.perform deed) _).mono ?_
  rintro server' _ ⟨events, rfl, run⟩
  exact ⟨⟨server, deed, events⟩ :: history, hleads.cons run, eventsOf_cons _ _⟩

/-- A program that keeps what the deeds keep is made of deeds. -/
theorem Reachable.of_safe {server : Server} {history : List Entry} (h : Reachable history server)
    {α : Type} {program : Program α} (left : α → Server)
    (hsafe : program.Safe .record [] fun value events =>
      Stands (fun server' events => ∃ recent, Leads server recent server' ∧
        eventsOf recent = events) (left value) events)
    {events : List Event} {value : α} (run : Exec program events value) :
    ∃ recent, Reachable (recent ++ history) (left value) ∧ eventsOf recent = events := by
  obtain ⟨recent, hleads, hevents⟩ := (hsafe.post_of_exec run (follows_auditing _ _ _)).holds
  rw [Monitor.record, after_auditing, List.nil_append] at hevents
  exact ⟨recent, h.append hleads, hevents⟩

/-- A pass is made of deeds, with the same events. -/
theorem Reachable.of_runOnce {server : Server} {history : List Entry}
    (h : Reachable history server) {events : List Event}
    {result : Except ServerError Unit × Server} (run : Exec server.runOnce events result) :
    ∃ recent, Reachable (recent ++ history) result.2 ∧ eventsOf recent = events :=
  h.of_safe Prod.snd ((upholds_record server).safe_runOnce ⟨h.placed, [], .nil, rfl⟩) run

theorem Leads.of_performAll {server server' : Server} {deeds : List Deed} {events : List Event}
    (run : Exec (server.performAll deeds) events server') :
    ∃ history, Leads server history server' ∧ eventsOf history = events := by
  induction deeds generalizing server events with
  | nil =>
    obtain ⟨rfl, rfl⟩ := exec_done_iff.1 run
    exact ⟨[], .nil, rfl⟩
  | cons deed deeds ih =>
    obtain ⟨before, middle, after, rfl, hdeed, hdeeds⟩ := Exec.bind_iff.1 run
    obtain ⟨history, hleads, rfl⟩ := ih hdeeds
    refine ⟨_, (Leads.nil.cons hdeed).append hleads, ?_⟩
    simp [eventsOf]

/-- On every platform a server comes to where deeds leave it. -/
theorem exists_reachable_run {State : Type} (answer : (r : Request) → State → r.Answer × State)
    (state : State) (config : Config) (accounts : Registry) (deeds : List Deed) :
    ∃ history, Reachable history
      (((Server.create config accounts).performAll deeds).run answer state).1 := by
  obtain ⟨events, run⟩ := exec_run answer ((Server.create config accounts).performAll deeds) state
  obtain ⟨history, hleads, -⟩ := Leads.of_performAll run
  exact ⟨history, config, accounts, hleads⟩

/-- Performs the deeds on a platform and keeps the history. -/
def chronicle {State : Type} (answer : (r : Request) → State → r.Answer × State) :
    List Deed → List Entry → Server → State → List Entry × Server
  | [], history, server, _ => (history, server)
  | deed :: deeds, history, server, state =>
    let (events, server', state) := (server.perform deed).trace answer state
    chronicle answer deeds (⟨server, deed, events⟩ :: history) server' state

theorem Leads.of_chronicle {State : Type} (answer : (r : Request) → State → r.Answer × State)
    {start server : Server} {history : List Entry} (h : Leads start history server)
    (deeds : List Deed) (state : State) :
    Leads start (chronicle answer deeds history server state).1
      (chronicle answer deeds history server state).2 := by
  induction deeds generalizing history server state with
  | nil => exact h
  | cons deed deeds ih => exact ih (h.cons (exec_trace answer _ state)) _

theorem Reachable.of_chronicle {State : Type} (answer : (r : Request) → State → r.Answer × State)
    {history : List Entry} {server : Server} (h : Reachable history server) (deeds : List Deed)
    (state : State) :
    Reachable (chronicle answer deeds history server state).1
      (chronicle answer deeds history server state).2 := by
  obtain ⟨config, accounts, hleads⟩ := h
  exact ⟨config, accounts, hleads.of_chronicle answer deeds state⟩

theorem Reachable.of_start {server : Server} {history : List Entry} (h : Reachable history server)
    {events : List Event} {result : Except ServerError Endpoint × Server}
    (run : Exec server.start events result) :
    Reachable (⟨server, .start, events⟩ :: history) result.2 := by
  obtain ⟨config, accounts, hleads⟩ := h
  refine ⟨config, accounts, hleads.cons ?_⟩
  exact Exec.bind_iff.2 ⟨events, result, [], (List.append_nil events).symm, run, .done _⟩

/-! ## A visit -/

/-- The platform in memory, but at every listener a client waits, and whenever something is received
it is this text. -/
def calledBy (text : Text) :
    (r : Request) → Simulation.World → r.Answer × Simulation.World
  | .accept _ _, world => (.ok (⟨7⟩, ⟨.localhost, 4000⟩), world)
  | .receive _ limit, world => (.ok (.take limit (Utf8.encode text)), world)
  | r, world => world.answer r

/-- A started server that holds an account and has admitted a client, and has then served so many
lines of what the client sent. -/
def visited (account : Account) (disk : Simulation.Disk) (text : Text) (lines : Nat) : Server :=
  let deeds := [.start, .register account, .accept, .receive 0] ++ List.replicate lines (.serve 0)
  let server := Server.create {} ⟨Config.accountLimits {}, []⟩
  ((server.performAll deeds).run (calledBy text) { clock := 0, disk }).1

/-- The history and the server of a visit: the server is started, creates an account and admits a
client, and further deeds follow. -/
def visit (config : Config) (account : Account) (disk : Simulation.Disk) (text : Text)
    (deeds : List Deed) : List Entry × Server :=
  chronicle (calledBy text) ([.start, .register account, .accept, .receive 0] ++ deeds) []
    (.create config ⟨Config.accountLimits {}, []⟩) { clock := 0, disk }

theorem reachable_visit (config : Config) (account : Account) (disk : Simulation.Disk)
    (text : Text) (deeds : List Deed) :
    Reachable (visit config account disk text deeds).1 (visit config account disk text deeds).2 :=
  Reachable.of_chronicle _ ⟨config, _, .nil⟩ _ _

theorem exists_reachable_visited (account : Account) (disk : Simulation.Disk) (text : Text)
    (lines : Nat) : ∃ history, Reachable history (visited account disk text lines) :=
  exists_reachable_run _ _ _ _ _

end Ftp
