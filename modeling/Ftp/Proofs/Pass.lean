import Mathlib.Data.List.Nodup
import Ftp.Proofs.Flow

/-!
# The deeds of a pass

A pass of the loop is made of deeds in a fixed order: a step of each transfer, a look at the
sockets, at most one admission, the turn of each session, a look at the clock, and the leave of
those that have been idle. In its turn a session may be received from, is served once, and may be
closed.

* `exec_runOnce`: every pass of a started server is a `Pass`, in which each session has its turn;
* `Pass.tally_serve`: no session is served twice in a pass;
* `Pass.tally_advance_le_count`: the loop takes one step of a transfer at most;
* `exec_runOnce_poll`: the sockets that a pass looks at;
* `Settled`: the servers between two calls, where no pass has been left half done.
-/

namespace Ftp

open Program

/-! ## Stretches of deeds -/

/-- Some deeds lead from one server to the other, and this was asked and answered in them. -/
structure Stretch (server : Server) (events : List Event) (recent : List Entry)
    (server' : Server) : Prop where
  leads : Leads server recent server'
  events_eq : eventsOf recent = events

/-- How often a deed was done. -/
def tally (deed : Deed) (history : List Entry) : Nat :=
  (history.map Entry.deed).count deed

section Stretches

variable {server middle server' : Server} {events more : List Event} {recent later : List Entry}
  {deed : Deed}

theorem stretch_nil (server : Server) : Stretch server [] [] server :=
  ⟨.nil, rfl⟩

theorem stretch_single (run : Exec (server.perform deed) events server') :
    Stretch server events [⟨server, deed, events⟩] server' :=
  ⟨.cons .nil run, by simp⟩

theorem Stretch.append (h : Stretch server events recent middle)
    (h' : Stretch middle more later server') :
    Stretch server (events ++ more) (later ++ recent) server' :=
  ⟨h.leads.append h'.leads, by rw [eventsOf_append, h.events_eq, h'.events_eq]⟩

@[simp] theorem tally_nil (deed : Deed) : tally deed [] = 0 := rfl

@[simp] theorem tally_cons (deed : Deed) (entry : Entry) (history : List Entry) :
    tally deed (entry :: history) = tally deed history + if entry.deed = deed then 1 else 0 := by
  simp [tally, List.count_cons]

@[simp] theorem tally_append (deed : Deed) (newer older : List Entry) :
    tally deed (newer ++ older) = tally deed newer + tally deed older := by
  simp [tally]

/-- A run of a program is one of a program that makes something of its value. -/
theorem Program.Exec.map {α β : Type} {program : Program α} {value : α}
    (run : Exec program events value) (f : α → β) :
    Exec (program >>= fun value => Program.done (f value)) events (f value) :=
  Exec.bind_iff.2 ⟨events, value, [], (List.append_nil _).symm, run, .done _⟩

theorem exec_onSession_of_get {slot : Nat} {session : Session} {sessions : SessionTable}
    {next : Session → Program SessionTable} (get : server.sessions.get? slot = some session)
    (run : Exec (next session) events sessions) :
    Exec (server.onSession slot next) events { server with sessions } := by
  rw [Server.onSession_eq get]
  exact run.map _

theorem exec_onListener_of_some {listener : Socket} {sessions : SessionTable}
    {next : Socket → Program SessionTable} (hlistener : server.listener = some listener)
    (run : Exec (next listener) events sessions) :
    Exec (server.onListener next) events { server with sessions } := by
  rw [Server.onListener_eq hlistener]
  exact run.map _

end Stretches

/-! ## Slots -/

namespace SessionTable

/-- The sessions come in the order of their slots. -/
theorem Placed.sorted {table : SessionTable} (placed : table.Placed) :
    table.sessions.Pairwise fun session session' => session.slot < session'.slot := by
  rw [sessions, List.pairwise_filterMap, List.pairwise_iff_getElem]
  intro i j hi hj hij session hsession session' hsession'
  have hget : ∀ {k : Nat} (hk : k < table.slots.length) {session : Session},
      id table.slots[k] = some session → session.slot = k := by
    intro k hk session hsession
    exact placed k session (by rw [get?, List.getElem?_eq_getElem hk]; exact hsession)
  rwa [hget hi hsession, hget hj hsession']

/-- No slot is occupied twice. -/
theorem Placed.nodup_occupied {table : SessionTable} (placed : table.Placed) :
    table.occupied.Nodup :=
  List.pairwise_map.2 (placed.sorted.imp Nat.ne_of_lt)

theorem transferring_sublist (table : SessionTable) :
    List.Sublist table.transferring table.occupied :=
  List.filter_sublist.map _

theorem Placed.nodup_transferring {table : SessionTable} (placed : table.Placed) :
    table.transferring.Nodup :=
  placed.nodup_occupied.sublist table.transferring_sublist

theorem isSome_get?_put {table : SessionTable} (session : Session) {slot : Nat}
    (h : (table.get? slot).isSome = true) : ((table.put session).get? slot).isSome = true := by
  obtain ⟨standing, get⟩ := Option.isSome_iff_exists.1 h
  by_cases hslot : session.slot = slot
  · rw [← hslot] at get ⊢
    rw [get?_put_self table session (lt_capacity_of_get? get)]
    rfl
  · rwa [get?_put_of_ne table session hslot]

theorem Placed.mem_transferring {table : SessionTable} (placed : table.Placed) {slot : Nat} :
    slot ∈ table.transferring ↔
      ∃ session, table.get? slot = some session ∧ session.isTransferring = true := by
  simp only [transferring, List.mem_map, List.mem_filter, mem_sessions_iff]
  constructor
  · rintro ⟨session, ⟨⟨other, get⟩, htransferring⟩, rfl⟩
    obtain rfl := placed other session get
    exact ⟨session, get, htransferring⟩
  · rintro ⟨session, get, htransferring⟩
    exact ⟨session, ⟨⟨slot, get⟩, htransferring⟩, placed slot session get⟩

end SessionTable

/-- A session stays in its slot unless it is closed there. -/
theorem Outcome.isSome_get? {server server' : Server} {deed : Deed} {slot : Nat}
    (h : Outcome server deed server') (hdeed : ¬ (deed = .close slot ∨ deed = .expire slot))
    (hsome : (server.sessions.get? slot).isSome = true) :
    (server'.sessions.get? slot).isSome = true := by
  cases h with
  | nothing | started | registered | unlistened => exact hsome
  | admitted hinsert =>
    obtain ⟨-, -, rfl⟩ := SessionTable.insert_eq_ok hinsert
    exact SessionTable.isSome_get?_put _ hsome
  | changed => exact SessionTable.isSome_get?_put _ hsome
  | @closed _ other hother =>
    have hne : other ≠ slot := fun heq => hdeed (heq ▸ hother)
    rwa [SessionTable.get?_erase_of_ne _ hne]

theorem Leads.isSome_get? {server server' : Server} {recent : List Entry} {slot : Nat}
    (h : Leads server recent server') (placed : server.sessions.Placed)
    (hdeeds : ∀ entry ∈ recent, ¬ (entry.deed = .close slot ∨ entry.deed = .expire slot))
    (hsome : (server.sessions.get? slot).isSome = true) :
    (server'.sessions.get? slot).isSome = true := by
  induction h with
  | nil => exact hsome
  | cons leads run ih =>
    obtain ⟨hdeed, hrest⟩ := List.forall_mem_cons.1 hdeeds
    have houtcome := (returns_perform (leads.placed placed) _).of_exec run
    exact houtcome.isSome_get? hdeed (ih hrest)

/-! ## Stages -/

/-- Deeds of one kind, at most one for each of the slots in their order. -/
def Each (deed : Nat → Deed) (slots : List Nat) (recent : List Entry) : Prop :=
  List.Sublist (recent.reverse.map Entry.deed) (slots.map deed)

/-- Such a deed belongs to the turn of a session. -/
def Deed.isTurn : Deed → Bool
  | .receive _ | .serve _ | .close _ => true
  | _ => false

/-- A line of the session of the slot is served, and perhaps the session is closed upon it. -/
inductive Attended (slot : Nat) : List Entry → Prop
  | kept {entry : Entry} (deed : entry.deed = .serve slot) : Attended slot [entry]
  | dismissed {entry last : Entry} (deed : entry.deed = .serve slot)
    (closes : last.deed = .close slot) : Attended slot [last, entry]

/-- The turn of a session in a pass. -/
inductive Turn (slot : Nat) : List Entry → Prop
  | absent : Turn slot []
  /-- Nothing was reported for its control connection. -/
  | calm {recent : List Entry} (attended : Attended slot recent) : Turn slot recent
  | heard {entry : Entry} {recent : List Entry} (deed : entry.deed = .receive slot)
    (flows : ∀ event ∈ entry.events, event.flows = true) (attended : Attended slot recent) :
    Turn slot (recent ++ [entry])
  /-- Its client has left, or the connection is broken. -/
  | gone {entry last : Entry} (deed : entry.deed = .receive slot)
    (breaks : ∃ event ∈ entry.events, event.flows = false) (closes : last.deed = .close slot) :
    Turn slot [last, entry]

theorem Attended.isTurn {slot : Nat} {recent : List Entry} (h : Attended slot recent) :
    ∀ entry ∈ recent, entry.deed.isTurn = true := by
  cases h with
  | kept deed => simp [deed, Deed.isTurn]
  | dismissed deed closes => simp [deed, closes, Deed.isTurn]

theorem Turn.isTurn {slot : Nat} {recent : List Entry} (h : Turn slot recent) :
    ∀ entry ∈ recent, entry.deed.isTurn = true := by
  cases h with
  | absent => exact List.forall_mem_nil _
  | calm attended => exact attended.isTurn
  | heard deed _ attended =>
    exact List.forall_mem_append.2 ⟨attended.isTurn, by simp [deed, Deed.isTurn]⟩
  | gone deed _ closes => simp [deed, closes, Deed.isTurn]

/-- The turn of a session is about that session. -/
theorem Turn.slot?_eq {slot : Nat} {recent : List Entry} (h : Turn slot recent) :
    ∀ entry ∈ recent, entry.deed.slot? = some slot := by
  have hattended : ∀ {recent : List Entry}, Attended slot recent →
      ∀ entry ∈ recent, entry.deed.slot? = some slot := by
    intro recent hattended
    cases hattended with
    | kept deed => simp [deed, Deed.slot?]
    | dismissed deed closes => simp [deed, closes, Deed.slot?]
  cases h with
  | absent => exact List.forall_mem_nil _
  | calm attended => exact hattended attended
  | heard deed _ attended =>
    exact List.forall_mem_append.2 ⟨hattended attended, by simp [deed, Deed.slot?]⟩
  | gone deed _ closes => simp [deed, closes, Deed.slot?]

/-- The turns of some sessions, one after the other. -/
inductive Turns : List Nat → List Entry → Prop
  | nil : Turns [] []
  | cons {slot : Nat} {slots : List Nat} {recent later : List Entry} (turn : Turn slot recent)
    (turns : Turns slots later) : Turns (slot :: slots) (later ++ recent)

theorem Turns.mem_of_slot? {slots : List Nat} {recent : List Entry} {entry : Entry} {slot : Nat}
    (h : Turns slots recent) (hmem : entry ∈ recent) (hslot : entry.deed.slot? = some slot) :
    slot ∈ slots := by
  induction h with
  | nil => cases hmem
  | cons turn _ ih =>
    rcases List.mem_append.1 hmem with hmem | hmem
    · exact List.mem_cons_of_mem _ (ih hmem)
    · rw [turn.slot?_eq entry hmem, Option.some.injEq] at hslot
      exact hslot ▸ List.mem_cons_self

/-- The stages of a pass over a table, the latest first. -/
inductive Stages (table : SessionTable) : List Entry → Prop
  | mk {steps admissions turns departures : List Entry} {poll clock : Entry}
    {slots idle : List Nat} (steps_each : Each .advance table.transferring steps)
    (poll_deed : poll.deed = .poll)
    (admissions_deed : admissions = [] ∨ ∃ entry, admissions = [entry] ∧ entry.deed = .accept)
    (slots_nodup : slots.Nodup) (turns_each : Turns slots turns)
    (clock_deed : clock.deed = .readClock) (departures_each : Each .expire idle departures) :
    Stages table (departures ++ clock :: turns ++ admissions ++ poll :: steps)

/-- The stages of a pass up to the last of the turns, the latest first. -/
inductive Rounds (table : SessionTable) : List Entry → Prop
  | mk {steps admissions turns : List Entry} {poll : Entry} {slots : List Nat}
    (steps_each : Each .advance table.transferring steps)
    (steps_all : ∀ slot ∈ table.transferring, ∃ entry ∈ steps, entry.deed = .advance slot ∧
      (entry.before.sessions.get? slot).isSome = true)
    (poll_deed : poll.deed = .poll)
    (admissions_deed : admissions = [] ∨ ∃ entry, admissions = [entry] ∧ entry.deed = .accept)
    (slots_nodup : slots.Nodup) (turns_each : Turns slots turns) :
    Rounds table (turns ++ admissions ++ poll :: steps)

theorem Rounds.stages {table : SessionTable} {recent departures : List Entry} {clock : Entry}
    {idle : List Nat} (h : Rounds table recent) (clock_deed : clock.deed = .readClock)
    (departures_each : Each .expire idle departures) :
    Stages table (departures ++ clock :: recent) := by
  obtain ⟨steps_each, -, poll_deed, admissions_deed, slots_nodup, turns_each⟩ := h
  simpa using Stages.mk steps_each poll_deed admissions_deed slots_nodup turns_each clock_deed
    departures_each

/-- The deeds of a pass that leads from one server to the other. -/
structure Pass (server : Server) (recent : List Entry) (server' : Server) : Prop where
  leads : Leads server recent server'
  stages : Stages server.sessions recent

/-- In a deed the connection of the session of the slot is found to be gone. -/
structure Entry.Deserted (slot : Nat) (entry : Entry) : Prop where
  deed : entry.deed = .receive slot
  breaks : ∃ event ∈ entry.events, event.flows = false

/-- In a deed the session of the slot is served a line by which it takes its leave. -/
structure Entry.Dismisses (slot : Nat) (entry : Entry) : Prop where
  deed : entry.deed = .serve slot
  run : ∃ session session', entry.before.sessions.get? slot = some session ∧
    Exec (Dispatch.processInput entry.before.setting session) entry.events (.close, session')

/-- What is done for the session of the slot when its turn has come. It is served and is not closed
upon it, unless it takes its leave or its connection is found to be gone. -/
inductive Attends (slot : Nat) : List Entry → Prop
  | mk {newer older : List Entry} {entry : Entry}
    (stays : ∀ other ∈ older, ¬ (other.deed = .close slot ∨ other.deed = .expire slot))
    (attends : (entry.deed = .serve slot ∧ ∀ other ∈ newer, other.deed ≠ .close slot) ∨
      entry.Dismisses slot ∨ entry.Deserted slot) : Attends slot (newer ++ entry :: older)

theorem attends_of_serve {slot : Nat} {entry : Entry} (h : entry.deed = .serve slot) :
    Attends slot [entry] :=
  @Attends.mk slot [] [] entry (List.forall_mem_nil _) (.inl ⟨h, List.forall_mem_nil _⟩)

theorem attends_of_leaves {slot : Nat} {entry : Entry} (last : Entry)
    (h : entry.Dismisses slot ∨ entry.Deserted slot) : Attends slot [last, entry] :=
  @Attends.mk slot [last] [] entry (List.forall_mem_nil _) (.inr h)

/-- Later deeds that do not close the session do not matter. -/
theorem Attends.append_left {slot : Nat} {recent later : List Entry} (h : Attends slot recent)
    (hlater : ∀ entry ∈ later, entry.deed ≠ .close slot) : Attends slot (later ++ recent) := by
  obtain ⟨hstays, hattends⟩ := h
  rw [← List.append_assoc]
  refine .mk hstays (hattends.imp_left fun ⟨hserve, hnewer⟩ => ⟨hserve, ?_⟩)
  exact List.forall_mem_append.2 ⟨hlater, hnewer⟩

theorem Attends.append_right {slot : Nat} {recent later : List Entry} (h : Attends slot later)
    (hrecent : ∀ entry ∈ recent, ¬ (entry.deed = .close slot ∨ entry.deed = .expire slot)) :
    Attends slot (later ++ recent) := by
  obtain ⟨hstays, hattends⟩ := h
  rw [List.append_assoc, List.cons_append]
  exact .mk (List.forall_mem_append.2 ⟨hstays, hrecent⟩) hattends

section Loop

variable {server : Server} {events : List Event} {sessions : SessionTable}

theorem each_nil (deed : Nat → Deed) (slots : List Nat) : Each deed slots [] :=
  List.nil_sublist _

theorem Each.skip {deed : Nat → Deed} {slot : Nat} {slots : List Nat} {recent : List Entry}
    (h : Each deed slots recent) : Each deed (slot :: slots) recent :=
  h.cons (deed slot)

theorem Each.cons {deed : Nat → Deed} {slot : Nat} {slots : List Nat} {recent : List Entry}
    (h : Each deed slots recent) (before : Server) (events : List Event) :
    Each deed (slot :: slots) (recent ++ [⟨before, deed slot, events⟩]) := by
  rw [Each, List.reverse_append, List.reverse_singleton, List.singleton_append, List.map_cons,
    List.map_cons]
  exact h.cons_cons (deed slot)

theorem Each.exists_slot {deed : Nat → Deed} {slots : List Nat} {recent : List Entry}
    (h : Each deed slots recent) : ∀ entry ∈ recent, ∃ slot, entry.deed = deed slot := by
  intro entry hmem
  have hdeed : entry.deed ∈ recent.reverse.map Entry.deed :=
    List.mem_map_of_mem (List.mem_reverse.2 hmem)
  obtain ⟨slot, -, heq⟩ := List.mem_map.1 (h.subset hdeed)
  exact ⟨slot, heq.symm⟩

theorem exec_stepTransfers (server : Server) {slots : List Nat}
    (run : Exec (Server.stepTransfers server.setting slots server.sessions) events sessions) :
    ∃ recent, Stretch server events recent { server with sessions } ∧
      Each .advance slots recent ∧
      ∀ slot ∈ slots, (server.sessions.get? slot).isSome = true → ∃ entry ∈ recent,
        entry.deed = .advance slot ∧ (entry.before.sessions.get? slot).isSome = true := by
  induction slots generalizing server events with
  | nil =>
    obtain ⟨rfl, rfl⟩ := exec_done_iff.1 run
    exact ⟨[], stretch_nil server, each_nil _ _, List.forall_mem_nil _⟩
  | cons slot slots ih =>
    simp only [Server.stepTransfers] at run
    cases hget : server.sessions.get? slot with
    | none =>
      rw [hget] at run
      obtain ⟨recent, hstretch, heach, hall⟩ := ih server run
      refine ⟨recent, hstretch, heach.skip, fun other hmem hsome => ?_⟩
      rcases List.mem_cons.1 hmem with rfl | hmem
      · rw [hget] at hsome
        cases hsome
      · exact hall other hmem hsome
    | some session =>
      rw [hget] at run
      obtain ⟨stepped, ⟨outcome, session'⟩, rest, rfl, hstep, hrest⟩ := Exec.bind_iff.1 run
      have hadvance : Exec (server.perform (.advance slot)) stepped
          { server with sessions := server.sessions.put session' } :=
        exec_onSession_of_get hget (hstep.map _)
      obtain ⟨recent, hstretch, heach, hall⟩ :=
        ih { server with sessions := server.sessions.put session' } hrest
      refine ⟨_, (stretch_single hadvance).append hstretch, heach.cons _ _,
        fun other hmem hsome => ?_⟩
      rcases List.mem_cons.1 hmem with rfl | hmem
      · exact ⟨⟨server, .advance other, stepped⟩, by simp, rfl, hsome⟩
      · obtain ⟨entry, hentry, hdeed⟩ :=
          hall other hmem (SessionTable.isSome_get?_put session' hsome)
        exact ⟨entry, List.mem_append_left _ hentry, hdeed⟩

theorem exec_closeSlot_stretch (server : Server) {slot : Nat}
    (run : Exec (Server.closeSlot slot server.sessions) events sessions) :
    ∃ entry, Stretch server events [entry] { server with sessions } ∧ entry.deed = .close slot :=
  ⟨⟨server, .close slot, events⟩, stretch_single (run.map _), rfl⟩

theorem exec_serveLine (session : Session) (hslot : session.slot < server.sessions.capacity)
    (run : Exec (Server.serveLine server.setting session server.sessions) events sessions) :
    ∃ recent, Stretch { server with sessions := server.sessions.put session } events recent
      { server with sessions } ∧ Attended session.slot recent ∧ Attends session.slot recent := by
  obtain ⟨served, ⟨status, session'⟩, rest, rfl, hserve, hrest⟩ := Exec.bind_iff.1 run
  have hclient := ((returns_processInput server.setting session).of_exec hserve).sameClient
  have hput := SessionTable.put_put server.sessions hclient.slot
  have hget : ({ server with sessions := server.sessions.put session } : Server).sessions.get?
      session.slot = some session := SessionTable.get?_put_self server.sessions session hslot
  have hdeed : Exec (Server.perform { server with sessions := server.sessions.put session }
      (.serve session.slot)) served { server with sessions := server.sessions.put session' } := by
    have hdone : Exec (Server.perform { server with sessions := server.sessions.put session }
        (.serve session.slot)) served
        { server with sessions := (server.sessions.put session).put session' } :=
      exec_onSession_of_get hget (hserve.map _)
    rwa [hput] at hdone
  cases status with
  | close =>
    obtain ⟨entry, hclose, hentry⟩ := exec_closeSlot_stretch
      { server with sessions := server.sessions.put session' } hrest
    rw [show session'.slot = session.slot from hclient.slot] at hentry
    exact ⟨_, (stretch_single hdeed).append hclose, .dismissed rfl hentry,
      attends_of_leaves _ (.inl ⟨rfl, session, session', hget, hserve⟩)⟩
  | success | failure =>
    obtain ⟨rfl, rfl⟩ := exec_done_iff.1 hrest
    rw [List.append_nil]
    exact ⟨_, stretch_single hdeed, .kept rfl, attends_of_serve rfl⟩

/-- A connection that is still there kept its bytes flowing. -/
theorem flows_of_receive {setting : Setting} {session : Session} {result : Bool × Session}
    (h : ControlRun setting session events result) :
    if result.1 then ∀ event ∈ events, event.flows = true
    else ∃ event ∈ events, event.flows = false := by
  cases h with
  | full => exact fun event hmem => by cases hmem
  | piece hchunk => exact List.forall_mem_singleton.2 (by simp [Event.flows, hchunk])
  | ended hchunk => exact ⟨_, List.mem_cons_self, by simp [Event.flows, hchunk]⟩
  | blocked hkind => exact List.forall_mem_singleton.2 (by simpa [Event.flows] using hkind)
  | broken hblocked hinterrupted =>
    exact ⟨_, List.mem_cons_self, by simpa [Event.flows] using ⟨hblocked, hinterrupted⟩⟩

theorem exec_turn {ready : List Socket} {slot : Nat} {session : Session}
    (placed : server.sessions.Placed) (get : server.sessions.get? slot = some session)
    (run : Exec (Server.serve server.setting ready session server.sessions) events sessions) :
    ∃ recent, Stretch server events recent { server with sessions } ∧ Turn slot recent ∧
      Attends slot recent := by
  obtain rfl := placed slot session get
  have hslot := SessionTable.lt_capacity_of_get? get
  unfold Server.serve at run
  split at run
  · obtain ⟨received, ⟨alive, session'⟩, rest, rfl, hreceive, hrest⟩ := Exec.bind_iff.1 run
    have hdeed : Exec (server.perform (.receive session.slot)) received
        { server with sessions := server.sessions.put session' } :=
      exec_onSession_of_get get (hreceive.map _)
    have hflows := flows_of_receive (exec_receive_run hreceive)
    obtain ⟨input, rfl⟩ : ∃ input, session' = { session with input } :=
      (returns_receive server.setting session).of_exec hreceive
    cases alive with
    | true =>
      obtain ⟨recent, hstretch, hattended, hattends⟩ :=
        exec_serveLine { session with input } hslot hrest
      exact ⟨_, (stretch_single hdeed).append hstretch, .heard rfl hflows hattended,
        hattends.append_right (by simp)⟩
    | false =>
      obtain ⟨entry, hclose, hentry⟩ := exec_closeSlot_stretch
        { server with sessions := server.sessions.put { session with input } } hrest
      have hbreaks : ∃ event ∈ received, event.flows = false := by simpa using hflows
      exact ⟨_, (stretch_single hdeed).append hclose, .gone rfl hbreaks hentry,
        attends_of_leaves _ (.inr ⟨rfl, hbreaks⟩)⟩
  · obtain ⟨recent, hstretch, hattended, hattends⟩ := exec_serveLine session hslot run
    rw [SessionTable.put_of_get? get] at hstretch
    exact ⟨recent, hstretch, .calm hattended, hattends⟩

theorem exec_serveAll (server : Server) {ready : List Socket} {slots : List Nat}
    (placed : server.sessions.Placed) (nodup : slots.Nodup)
    (run : Exec (Server.serveAll server.setting ready slots server.sessions) events sessions) :
    ∃ recent, Stretch server events recent { server with sessions } ∧ Turns slots recent ∧
      ∀ slot ∈ slots, (server.sessions.get? slot).isSome = true → Attends slot recent := by
  induction slots generalizing server events with
  | nil =>
    obtain ⟨rfl, rfl⟩ := exec_done_iff.1 run
    exact ⟨[], stretch_nil server, .nil, List.forall_mem_nil _⟩
  | cons slot slots ih =>
    obtain ⟨hnotMem, hnodup⟩ := List.nodup_cons.1 nodup
    simp only [Server.serveAll] at run
    cases hget : server.sessions.get? slot with
    | none =>
      rw [hget] at run
      obtain ⟨recent, hstretch, hturns, hall⟩ := ih server placed hnodup run
      refine ⟨recent, hstretch, by simpa using Turns.cons .absent hturns,
        List.forall_mem_cons.2 ⟨fun hsome => ?_, hall⟩⟩
      rw [hget] at hsome
      cases hsome
    | some session =>
      rw [hget] at run
      obtain ⟨_, table, _, rfl, hserve, hrest⟩ := Exec.bind_iff.1 run
      obtain ⟨first, hstretch, hturn, hattends⟩ := exec_turn placed hget hserve
      obtain ⟨recent, hstretch', hturns, hall⟩ :=
        ih { server with sessions := table } (hstretch.leads.placed placed) hnodup hrest
      refine ⟨_, hstretch.append hstretch', hturns.cons hturn,
        List.forall_mem_cons.2 ⟨fun _ => ?_, fun other hmem hsome => ?_⟩⟩
      · refine hattends.append_left fun entry hentry hdeed => ?_
        exact hnotMem (hturns.mem_of_slot? hentry (by rw [hdeed]; rfl))
      · -- The first turn is not about the other sessions.
        have hstays : ∀ entry ∈ first,
            ¬ (entry.deed = .close other ∨ entry.deed = .expire other) := by
          intro entry hentry hdeed
          have hslot := hturn.slot?_eq entry hentry
          rcases hdeed with hdeed | hdeed <;> rw [hdeed] at hslot <;> cases hslot <;>
            exact hnotMem hmem
        have hkept := hstretch.leads.isSome_get? placed hstays hsome
        exact (hall other hmem hkept).append_right hstays

theorem exec_expire (server : Server) {slots : List Nat}
    (run : Exec (Server.expire slots server.sessions) events sessions) :
    ∃ recent, Stretch server events recent { server with sessions } ∧
      Each .expire slots recent := by
  induction slots generalizing server events with
  | nil =>
    obtain ⟨rfl, rfl⟩ := exec_done_iff.1 run
    exact ⟨[], stretch_nil server, each_nil _ _⟩
  | cons slot slots ih =>
    simp only [Server.expire] at run
    cases hget : server.sessions.get? slot with
    | none =>
      rw [hget] at run
      obtain ⟨recent, hstretch, heach⟩ := ih server run
      exact ⟨recent, hstretch, heach.skip⟩
    | some session =>
      rw [hget] at run
      obtain ⟨said, ⟨⟩, _, rfl, hsay, hclosing⟩ := Exec.bind_iff.1 run
      obtain ⟨closed, table, rest, rfl, hclose, hrest⟩ := Exec.bind_iff.1 hclosing
      have hexpire : Exec (server.perform (.expire slot)) (said ++ closed)
          { server with sessions := table } :=
        exec_onSession_of_get hget (Exec.bind_iff.2 ⟨_, _, _, rfl, hsay, hclose⟩)
      obtain ⟨recent, hstretch, heach⟩ := ih { server with sessions := table } hrest
      rw [← List.append_assoc]
      exact ⟨_, (stretch_single hexpire).append hstretch, heach.cons _ _⟩

theorem exec_acceptIfReady (server : Server) {listener : Socket} {ready : List Socket}
    (hlistener : server.listener = some listener)
    (run : Exec (Server.acceptIfReady listener ready server.sessions) events sessions) :
    ∃ recent, Stretch server events recent { server with sessions } ∧
      (recent = [] ∨ ∃ entry, recent = [entry] ∧ entry.deed = .accept) := by
  unfold Server.acceptIfReady at run
  split at run
  · have haccept : Exec (server.perform .accept) events { server with sessions } :=
      exec_onListener_of_some hlistener run
    exact ⟨_, stretch_single haccept, .inr ⟨_, rfl, rfl⟩⟩
  · obtain ⟨rfl, rfl⟩ := exec_done_iff.1 run
    exact ⟨[], stretch_nil server, .inl rfl⟩

theorem runOnce_eq {listener : Socket} (hlistener : server.listener = some listener) :
    server.runOnce = Server.pass server.setting listener server.sessions >>=
      fun sessions => Program.done (.ok (), { server with sessions }) := by
  unfold Server.runOnce
  split
  · rename_i hnone
    rw [hlistener] at hnone
    cases hnone
  · rename_i other hother
    rw [hlistener] at hother
    cases hother
    rfl

/-- A server that is not started does nothing. -/
theorem exec_runOnce_of_none {result : Except ServerError Unit × Server}
    (hlistener : server.listener = none) (run : Exec server.runOnce events result) :
    events = [] ∧ result = (.error .notStarted, server) := by
  simp only [Server.runOnce] at run
  split at run
  · exact exec_done_iff.1 run
  · rename_i listener hsome
    rw [hlistener] at hsome
    cases hsome

/-- A pass of a started server takes its rounds, looks at the clock, and takes leave of the sessions
that are idle by then. -/
theorem exec_runOnce_rounds {listener : Socket} {result : Except ServerError Unit × Server}
    (placed : server.sessions.Placed) (hlistener : server.listener = some listener)
    (run : Exec server.runOnce events result) :
    ∃ work recent served now departed table, Stretch server work recent served ∧
      Rounds server.sessions recent ∧ served.config = server.config ∧
      Exec (Server.expire (Server.idleSlots server.config now served.sessions) served.sessions)
        departed table ∧
      events = work ++ ⟨.unixTime, now⟩ :: departed ∧
      result = (.ok (), { served with sessions := table }) ∧
      ∀ slot, (server.sessions.get? slot).isSome = true → Attends slot recent := by
  rw [runOnce_eq hlistener] at run
  obtain ⟨_, table, _, rfl, hrun, hdone⟩ := Exec.bind_iff.1 run
  obtain ⟨rfl, rfl⟩ := exec_done_iff.1 hdone
  obtain ⟨stepped, table₁, _, rfl, hstep, hrest⟩ := Exec.bind_iff.1 hrun
  obtain ⟨polled, ready, _, rfl, hpoll, hrest⟩ := Exec.bind_iff.1 hrest
  obtain ⟨admitted, table₂, _, rfl, hadmit, hrest⟩ := Exec.bind_iff.1 hrest
  obtain ⟨served, table₃, _, rfl, hserve, hrest⟩ := Exec.bind_iff.1 hrest
  obtain ⟨now, departed, rfl, hexpire⟩ := exec_ask_iff.1 hrest
  obtain ⟨steps, hsteps, hadvances, hall⟩ := exec_stepTransfers server hstep
  have hpoll : Exec (Server.perform { server with sessions := table₁ } .poll) polled
      { server with sessions := table₁ } :=
    exec_onListener_of_some hlistener (hpoll.map fun _ => table₁)
  obtain ⟨admissions, hadmissions, hadmission⟩ :=
    exec_acceptIfReady { server with sessions := table₁ } hlistener hadmit
  have hplaced : table₂.Placed :=
    hadmissions.leads.placed (hsteps.leads.placed placed)
  obtain ⟨turns, hturns, hturn, hattends⟩ :=
    exec_serveAll { server with sessions := table₂ } hplaced hplaced.nodup_occupied hserve
  have hready := hsteps.append ((stretch_single hpoll).append hadmissions)
  have hwork := hready.append hturns
  refine ⟨_, _, { server with sessions := table₃ }, now, departed, table, hwork, ?_, rfl, hexpire,
    by simp, rfl, fun slot hsome => ?_⟩
  · have hrounds : Rounds server.sessions (turns ++ admissions ++
        ⟨{ server with sessions := table₁ }, .poll, polled⟩ :: steps) := by
      refine .mk hadvances (fun slot hmem => ?_) rfl hadmission hplaced.nodup_occupied hturn
      obtain ⟨session, get, -⟩ := placed.mem_transferring.1 hmem
      exact hall slot hmem (by rw [get]; rfl)
    simpa using hrounds
  · -- No session is closed before the turns.
    have hdeeds : ∀ entry ∈ (admissions ++ [⟨{ server with sessions := table₁ }, .poll, polled⟩]) ++
        steps, ¬ (entry.deed = .close slot ∨ entry.deed = .expire slot) := by
      intro entry hmem
      simp only [List.mem_append, List.mem_singleton] at hmem
      rcases hmem with (hmem | rfl) | hmem
      · rcases hadmission with rfl | ⟨admission, rfl, haccept⟩
        · cases hmem
        · rw [List.mem_singleton.1 hmem, haccept]
          simp
      · simp
      · obtain ⟨other, hadvance⟩ := hadvances.exists_slot entry hmem
        rw [hadvance]
        simp
    have hkept := hready.leads.isSome_get? placed hdeeds hsome
    obtain ⟨session, get⟩ := Option.isSome_iff_exists.1 hkept
    have hmem : slot ∈ table₂.occupied := List.mem_map.2
      ⟨session, SessionTable.mem_sessions_iff.2 ⟨slot, get⟩, hplaced slot session get⟩
    exact (hattends slot hmem hkept).append_right hdeeds

/-- Each pass of a started server goes through its stages. -/
theorem exec_runOnce {listener : Socket} {result : Except ServerError Unit × Server}
    (placed : server.sessions.Placed) (hlistener : server.listener = some listener)
    (run : Exec server.runOnce events result) :
    ∃ recent, Pass server recent result.2 ∧ eventsOf recent = events ∧
      ∀ slot, (server.sessions.get? slot).isSome = true → Attends slot recent := by
  obtain ⟨work, recent, served, now, departed, table, hwork, hrounds, hconfig, hexpire, rfl, rfl,
    hattends⟩ := exec_runOnce_rounds placed hlistener run
  have hclock : Exec (served.perform .readClock) [⟨.unixTime, now⟩] served :=
    .ask (.done served)
  obtain ⟨departures, hdepartures, hdeparture⟩ := exec_expire served hexpire
  have hall := hwork.append ((stretch_single hclock).append hdepartures)
  refine ⟨_, ⟨hall.leads, ?_⟩, hall.events_eq, fun slot hsome => ?_⟩
  · simpa using hrounds.stages rfl hdeparture
  · refine (hattends slot hsome).append_left fun entry hmem hdeed => ?_
    rcases List.mem_append.1 hmem with hmem | hmem
    · obtain ⟨other, hexpired⟩ := hdeparture.exists_slot entry hmem
      cases hexpired.symm.trans hdeed
    · rw [List.mem_singleton.1 hmem] at hdeed
      cases hdeed

/-- A session keeps its connection and its input while the transfers take their steps. -/
theorem returns_stepTransfers (server : Server) (placed : server.sessions.Placed)
    (slots : List Nat) {slot : Nat} {session : Session}
    (get : server.sessions.get? slot = some session) :
    (Server.stepTransfers server.setting slots server.sessions).Returns fun sessions =>
      ∃ session', sessions.get? slot = some session' ∧ session'.control = session.control ∧
        session'.input = session.input := by
  induction slots generalizing server session with
  | nil => exact ⟨session, get, rfl, rfl⟩
  | cons first slots ih =>
    simp only [Server.stepTransfers]
    cases hget : server.sessions.get? first with
    | none => exact ih server placed get
    | some stepping =>
      simp only [returns_bind]
      refine (returns_step server.setting stepping).mono ?_
      rintro ⟨outcome, stepped⟩ ⟨now, transmission, h, rfl⟩
      obtain rfl := placed first stepping hget
      let stepped : Session := { stepping with lastCommand := now, transmission }
      have hadvanced : Becomes server.setting stepping (.advance stepping.slot) stepped :=
        .advanced h
      have hplaced := (Outcome.changed hget hadvanced).placed placed
      have hlt : stepped.slot < server.sessions.capacity :=
        SessionTable.lt_capacity_of_get? hget
      have hafter := SessionTable.get?_put hlt slot
      split at hafter
      · rename_i hslot
        rw [hslot, hget, Option.some.injEq] at get
        subst get
        have hrest := ih { server with sessions := server.sessions.put stepped } hplaced hafter
        exact hrest
      · rw [get] at hafter
        exact ih { server with sessions := server.sessions.put stepped } hplaced hafter

/-- In each pass the listener is looked at, and each control connection whose session can take more
bytes. -/
theorem exec_runOnce_poll {listener : Socket} {result : Except ServerError Unit × Server}
    (placed : server.sessions.Placed) (hlistener : server.listener = some listener)
    (run : Exec server.runOnce events result) :
    ∃ sockets wait answer, (⟨.poll sockets wait, answer⟩ : Event) ∈ events ∧
      listener ∈ sockets ∧ ∀ slot session, server.sessions.get? slot = some session →
        0 < session.input.spare → session.control ∈ sockets := by
  rw [runOnce_eq hlistener] at run
  obtain ⟨_, table, _, rfl, hrun, -⟩ := Exec.bind_iff.1 run
  obtain ⟨stepped, table, _, rfl, hstep, hrest⟩ := Exec.bind_iff.1 hrun
  obtain ⟨polled, ready, _, rfl, hpoll, -⟩ := Exec.bind_iff.1 hrest
  simp only [Server.pollReady, request, ask_bind, done_bind, exec_ask_iff] at hpoll
  obtain ⟨answer, _, rfl, -⟩ := hpoll
  refine ⟨_, _, answer, by simp, List.mem_cons_self, fun slot session get hspare => ?_⟩
  obtain ⟨session', get', hcontrol, hinput⟩ :=
    (returns_stepTransfers server placed _ get).of_exec hstep
  refine List.mem_cons_of_mem _ (List.mem_map.2 ⟨session', List.mem_filter.2 ⟨?_, ?_⟩, hcontrol⟩)
  · exact SessionTable.mem_sessions_iff.2 ⟨slot, get'⟩
  · rw [hinput]
    exact decide_eq_true hspare

end Loop

/-! ## How often -/

section Tallies

variable {server server' : Server} {recent : List Entry} {slot other : Nat} {slots : List Nat}

theorem Each.tally_le {deed : Nat → Deed} (h : Each deed slots recent) (other : Deed) :
    tally other recent ≤ (slots.map deed).count other := by
  rw [tally, ← List.count_reverse, ← List.map_reverse]
  exact List.Sublist.count_le other h

theorem Each.tally_eq_zero {deed : Nat → Deed} (h : Each deed slots recent) {other : Deed}
    (hne : ∀ slot ∈ slots, deed slot ≠ other) : tally other recent = 0 := by
  refine Nat.le_zero.1 ((h.tally_le other).trans (List.count_eq_zero.2 fun hmem => ?_).le)
  obtain ⟨slot, hslot, hdeed⟩ := List.mem_map.1 hmem
  exact hne slot hslot hdeed

theorem Attended.tally_serve (h : Attended slot recent) :
    tally (.serve other) recent = if slot = other then 1 else 0 := by
  cases h with
  | kept deed => simp [deed]
  | dismissed deed closes => simp [deed, closes]

theorem Turn.tally_serve_le (h : Turn slot recent) :
    tally (.serve other) recent ≤ if slot = other then 1 else 0 := by
  cases h with
  | absent => exact Nat.zero_le _
  | calm attended => exact attended.tally_serve.le
  | heard deed _ attended => simp [deed, attended.tally_serve]
  | gone deed _ closes => simp [deed, closes]

theorem Turns.tally_serve_le (h : Turns slots recent) :
    tally (.serve other) recent ≤ slots.count other := by
  induction h with
  | nil => exact Nat.zero_le _
  | @cons slot slots recent later turn _ ih =>
    have hturn : tally (.serve other) recent ≤ if slot = other then 1 else 0 := turn.tally_serve_le
    rw [tally_append, List.count_cons]
    simpa using Nat.add_le_add ih hturn

theorem tally_eq_zero {deed : Deed} (h : ∀ entry ∈ recent, entry.deed ≠ deed) :
    tally deed recent = 0 := by
  refine List.count_eq_zero.2 fun hmem => ?_
  obtain ⟨entry, hentry, hdeed⟩ := List.mem_map.1 hmem
  exact h entry hentry hdeed

theorem Turns.isTurn (h : Turns slots recent) : ∀ entry ∈ recent, entry.deed.isTurn = true := by
  induction h with
  | nil => exact List.forall_mem_nil _
  | cons turn _ ih => exact List.forall_mem_append.2 ⟨ih, turn.isTurn⟩

/-- Nobody is taken leave of before the last stage. -/
theorem Rounds.deed_ne {table : SessionTable} (h : Rounds table recent) (slot : Nat) :
    ∀ entry ∈ recent, entry.deed ≠ .expire slot := by
  obtain ⟨hsteps, -, hpoll, hadmissions, -, hturns⟩ := h
  intro entry hmem hdeed
  simp only [List.mem_append, List.mem_cons] at hmem
  rcases hmem with (hmem | hmem) | rfl | hmem
  · have hturn := hturns.isTurn entry hmem
    rw [hdeed] at hturn
    cases hturn
  · rcases hadmissions with rfl | ⟨admission, rfl, haccept⟩
    · cases hmem
    · rw [List.mem_singleton.1 hmem, haccept] at hdeed
      cases hdeed
  · cases hpoll.symm.trans hdeed
  · obtain ⟨other, hadvance⟩ := hsteps.exists_slot entry hmem
    cases hadvance.symm.trans hdeed

/-- No session is served twice in a pass. -/
theorem Pass.tally_serve (h : Pass server recent server') (slot : Nat) :
    tally (.serve slot) recent ≤ 1 := by
  obtain ⟨hsteps, hpoll, hadmissions, hnodup, hturns, hclock, hdepartures⟩ := h.stages
  have hserved := hturns.tally_serve_le.trans (List.nodup_iff_count_le_one.1 hnodup slot)
  have hstepped : tally (.serve slot) _ = 0 := hsteps.tally_eq_zero fun _ _ => nofun
  have hdeparted : tally (.serve slot) _ = 0 := hdepartures.tally_eq_zero fun _ _ => nofun
  rcases hadmissions with rfl | ⟨entry, rfl, hentry⟩
  · simpa [hpoll, hclock, hstepped, hdeparted] using hserved
  · simpa [hpoll, hclock, hentry, hstepped, hdeparted] using hserved

/-- The loop takes no step of a transfer but in the first stage. -/
theorem Pass.tally_advance_le_count (h : Pass server recent server') (slot : Nat) :
    tally (.advance slot) recent ≤ server.sessions.transferring.count slot := by
  obtain ⟨hsteps, hpoll, hadmissions, -, hturns, hclock, hdepartures⟩ := h.stages
  have hserved : tally (.advance slot) _ = 0 := tally_eq_zero fun entry hmem hdeed => by
    have hturn := hturns.isTurn entry hmem
    rw [hdeed] at hturn
    cases hturn
  have hstepped := hsteps.tally_le (.advance slot)
  rw [List.count_map_of_injective _ _ fun _ _ => Deed.advance.inj] at hstepped
  have hdeparted : tally (.advance slot) _ = 0 := hdepartures.tally_eq_zero fun _ _ => nofun
  rcases hadmissions with rfl | ⟨entry, rfl, hentry⟩
  · simpa [hpoll, hclock, hserved, hdeparted] using hstepped
  · simpa [hpoll, hclock, hentry, hserved, hdeparted] using hstepped

end Tallies

/-! ## Between calls -/

/-- The server stands between two calls, and this is its past: no pass of its loop has been left
half done, nor a shutdown. -/
inductive Settled : List Entry → Server → Prop
  | created (config : Config) (accounts : Registry) : Settled [] (.create config accounts)
  | called {history : List Entry} {server server' : Server} {deed : Deed} {events : List Event}
    (h : Settled history server) (hdeed : deed.isRoutine = false)
    (run : Exec (server.perform deed) events server') :
    Settled (⟨server, deed, events⟩ :: history) server'
  | passed {history recent : List Entry} {server server' : Server} (h : Settled history server)
    (pass : Pass server recent server') : Settled (recent ++ history) server'
  | shut {history closings : List Entry} {last : Entry} {server server' : Server}
    (h : Settled history server) (leads : Leads server (last :: closings) server')
    (closings_each : Each .close server.sessions.occupied closings)
    (last_deed : last.deed = .unlisten) : Settled (last :: closings ++ history) server'

section Calls

variable {history : List Entry} {server server' : Server} {events : List Event}

theorem Settled.reachable (h : Settled history server) : Reachable history server := by
  induction h with
  | created config accounts => exact ⟨config, accounts, .nil⟩
  | called _ _ run ih => exact ih.append (Leads.nil.cons run)
  | passed _ pass ih => exact ih.append pass.leads
  | shut _ leads _ _ ih => exact ih.append leads

theorem Leads.config_eq {start : Server} (h : Leads start history server)
    (placed : start.sessions.Placed) : server.config = start.config := by
  induction h with
  | nil => rfl
  | cons leads run ih =>
    exact ((returns_perform (leads.placed placed) _).of_exec run).config_eq.trans ih

theorem exec_closeSlots (server : Server) {slots : List Nat} {sessions : SessionTable}
    (run : Exec (Server.closeSlots slots server.sessions) events sessions) :
    ∃ recent, Stretch server events recent { server with sessions } ∧ Each .close slots recent := by
  induction slots generalizing server events with
  | nil =>
    obtain ⟨rfl, rfl⟩ := exec_done_iff.1 run
    exact ⟨[], stretch_nil server, each_nil _ _⟩
  | cons slot slots ih =>
    obtain ⟨closed, table, rest, rfl, hclose, hrest⟩ := Exec.bind_iff.1 run
    have hdeed : Exec (server.perform (.close slot)) closed { server with sessions := table } :=
      hclose.map _
    obtain ⟨recent, hstretch, heach⟩ := ih { server with sessions := table } hrest
    exact ⟨_, (stretch_single hdeed).append hstretch, heach.cons _ _⟩

/-- A call of the loop is a pass, or the server is not started and nothing happens. -/
theorem Settled.exists_of_runOnce {result : Except ServerError Unit × Server}
    (h : Settled history server) (run : Exec server.runOnce events result) :
    ∃ recent, Settled (recent ++ history) result.2 ∧ eventsOf recent = events ∧
      (recent = [] ∨ Pass server recent result.2) := by
  cases hlistener : server.listener with
  | none =>
    obtain ⟨rfl, rfl⟩ := exec_runOnce_of_none hlistener run
    exact ⟨[], h, rfl, .inl rfl⟩
  | some listener =>
    obtain ⟨recent, hpass, hevents, -⟩ := exec_runOnce h.reachable.placed hlistener run
    exact ⟨recent, h.passed hpass, hevents, .inr hpass⟩

theorem Settled.exists_of_shutdown (h : Settled history server)
    (run : Exec server.shutdown events server') :
    ∃ recent, Settled (recent ++ history) server' ∧ eventsOf recent = events := by
  obtain ⟨closed, table, rest, rfl, hclose, hrest⟩ := Exec.bind_iff.1 run
  obtain ⟨closings, hstretch, heach⟩ := exec_closeSlots server hclose
  have hunlisten : Exec (Server.perform { server with sessions := table } .unlisten) rest server' :=
    hrest
  have hall := hstretch.append (stretch_single hunlisten)
  exact ⟨_, h.shut hall.leads heach rfl, hall.events_eq⟩

/-- Calls lead from one settled server to the next. -/
theorem Settled.exists_of_callAll {calls : List Call} (h : Settled history server)
    (run : Exec (server.callAll calls) events server') :
    ∃ recent, Settled (recent ++ history) server' ∧ eventsOf recent = events := by
  induction calls generalizing history server events with
  | nil =>
    obtain ⟨rfl, rfl⟩ := exec_done_iff.1 run
    exact ⟨[], h, rfl⟩
  | cons call calls ih =>
    obtain ⟨first, middle, rest, rfl, hcall, hrest⟩ := Exec.bind_iff.1 run
    have hsettled : ∃ recent, Settled (recent ++ history) middle ∧ eventsOf recent = first := by
      cases call with
      | runOnce =>
        obtain ⟨_, result, _, rfl, hpass, hdone⟩ := Exec.bind_iff.1 hcall
        obtain ⟨rfl, rfl⟩ := exec_done_iff.1 hdone
        rw [List.append_nil]
        obtain ⟨recent, hsettled, hevents, -⟩ := h.exists_of_runOnce hpass
        exact ⟨recent, hsettled, hevents⟩
      | register account =>
        exact ⟨[⟨server, .register account, first⟩], h.called rfl hcall, by simp⟩
      | shutdown => exact h.exists_of_shutdown hcall
    obtain ⟨recent, hmiddle, rfl⟩ := hsettled
    obtain ⟨later, hafter, rfl⟩ := ih hmiddle hrest
    exact ⟨later ++ recent, by rwa [List.append_assoc], eventsOf_append later recent⟩

end Calls

theorem Settled.of_chronicle {State : Type} (answer : (r : Request) → State → r.Answer × State)
    {history : List Entry} {server : Server} (h : Settled history server) {deeds : List Deed}
    (hdeeds : ∀ deed ∈ deeds, deed.isRoutine = false) (state : State) :
    Settled (chronicle answer deeds history server state).1
      (chronicle answer deeds history server state).2 := by
  induction deeds generalizing history server state with
  | nil => exact h
  | cons deed deeds ih =>
    obtain ⟨hdeed, hrest⟩ := List.forall_mem_cons.1 hdeeds
    exact ih (h.called hdeed (exec_trace answer _ state)) hrest _

/-! ## A call from outside -/

/-- A client dials in at the port, sends a text, and perhaps closes its end. -/
def Simulation.World.dialled (world : World) (port : UInt16) (text : Text) (ended : Bool) : World :=
  let client : Stream :=
    { handle := world.network.nextHandle, name := "client".toList, near := none,
      far := ⟨.localhost, 4000⟩, inbox := Utf8.encode text, ended }
  { world with network := (world.network.dial? port client).getD world.network }

/-- A server that has been started in memory and holds an account, with its past and the platform,
where a client has dialled in. -/
def phoned (config : Config) (account : Account) (disk : Simulation.Disk) (text : Text)
    (ended : Bool) : List Entry × Server × Simulation.World :=
  let deeds := [.start, .register account]
  let server := Server.create config ⟨Config.accountLimits config, []⟩
  let world : Simulation.World := { clock := 0, disk }
  let (history, started) := chronicle Simulation.World.answer deeds [] server world
  let world := ((server.performAll deeds).run Simulation.World.answer world).2
  (history, started, world.dialled config.controlPort text ended)

/-- So many passes of such a server: what is asked and answered in them, the server, and the
platform. -/
def passes (config : Config) (account : Account) (disk : Simulation.Disk) (text : Text)
    (ended : Bool) (count : Nat) : List Event × Server × Simulation.World :=
  let (_, server, world) := phoned config account disk text ended
  (server.callAll (List.replicate count .runOnce)).trace Simulation.World.answer world

section Phoned

variable (config : Config) (account : Account) (disk : Simulation.Disk) (text : Text)
  (ended : Bool)

theorem settled_phoned :
    Settled (phoned config account disk text ended).1
      (phoned config account disk text ended).2.1 := by
  have hdeeds : ∀ deed ∈ [Deed.start, .register account], deed.isRoutine = false := by
    simp [Deed.isRoutine]
  exact (Settled.created config _).of_chronicle Simulation.World.answer hdeeds { clock := 0, disk }

theorem exists_settled_passes (count : Nat) :
    ∃ recent, Settled (recent ++ (phoned config account disk text ended).1)
        (passes config account disk text ended count).2.1 ∧
      eventsOf recent = (passes config account disk text ended count).1 :=
  (settled_phoned config account disk text ended).exists_of_callAll
    (exec_trace Simulation.World.answer _ _)

end Phoned

end Ftp
