import Ftp.Proofs.Pass
import Ftp.Proofs.Stream

/-!
# What a client sends is heard

Whatever arrives on a control connection goes into the line buffer of its session, and from there
one report is taken whenever the session is served. A pass never leaves a buffer full, so that the
connection is looked at again in the next one.

* `length_taken_of_le_spare`: a buffer takes all that it has room for, also while it skips a line;
* `exec_input`: what a deed makes of an input;
* `Reachable.standing`: an input stands where the reports in the past of its session have left it;
* `Settled.roomy`: between two calls there is room in every buffer;
* `attentive_of_reachable`: nothing that arrives is lost, and no client waits forever.
-/

namespace Ftp

open Program LineBuffer

/-! ## Buffers -/

namespace LineBuffer

variable {buffer : LineBuffer} {bytes : List UInt8}

theorem length_skipLine_le {lastWasCR : Bool} {rest : List UInt8}
    (h : skipLine lastWasCR bytes = .ok rest) : rest.length ≤ bytes.length := by
  induction bytes generalizing lastWasCR with
  | nil => cases h
  | cons b bytes ih =>
    simp only [skipLine] at h
    split at h
    · cases h
      exact Nat.le_succ _
    · exact (ih h).trans (Nat.le_succ _)

/-- A buffer takes all that it has room for. -/
theorem length_taken_of_le_spare (h : bytes.length ≤ buffer.spare) :
    (buffer.extend bytes).1 = bytes.length := by
  unfold extend
  split
  · cases hskip : skipLine buffer.lastWasCR bytes with
    | error lastWasCR => rfl
    | ok rest =>
      have hrest := length_skipLine_le hskip
      simp only []
      omega
  · exact min_eq_left h

theorem extend_nil (buffer : LineBuffer) : (buffer.extend []).2 = buffer := by
  obtain ⟨capacity, bytes, skipping, lastWasCR⟩ := buffer
  cases skipping <;> simp [extend, skipLine, store]

/-- A buffer that has just been asked for its next report has room for more. -/
theorem spare_nextReport_pos (hcapacity : 0 < buffer.capacity)
    (hlength : buffer.length ≤ buffer.capacity) : 0 < buffer.nextReport.2.spare := by
  unfold nextReport nextLine?
  cases hcut : cut? buffer.bytes with
  | some pieces =>
    have heq := congrArg List.length (eq_append_of_cut? hcut)
    simp only [List.length_append, List.length_cons] at heq
    simp only [Option.map_some, spare, LineBuffer.length] at hlength ⊢
    omega
  | none =>
    simp only [Option.map_none]
    split
    · simpa [spare, LineBuffer.length, dropLine] using hcapacity
    · rename_i hfull
      have hroom : ¬ buffer.capacity ≤ buffer.bytes.length := fun hle =>
        hfull (overflowed_iff.2 ⟨hle, hcut⟩)
      simp only [spare, LineBuffer.length]
      omega

theorem capacity_extend (buffer : LineBuffer) (bytes : List UInt8) :
    (buffer.extend bytes).2.capacity = buffer.capacity := by
  unfold extend
  split
  · split <;> rfl
  · rfl

theorem capacity_nextReport (buffer : LineBuffer) :
    buffer.nextReport.2.capacity = buffer.capacity := by
  unfold nextReport nextLine?
  cases cut? buffer.bytes with
  | some pieces => rfl
  | none =>
    simp only [Option.map_none]
    split <;> rfl

/-- Where there is room the buffer does not overflow. -/
theorem overflowed_of_spare (h : 0 < buffer.spare) : buffer.overflowed = false := by
  rw [Bool.eq_false_iff]
  intro hfull
  have hle := (overflowed_iff.1 hfull).1
  simp only [spare, LineBuffer.length] at h
  omega

theorem Standing.capacity_eq {capacity : Nat} {taken : List UInt8} {reports : List Report}
    (h : Standing capacity buffer taken reports) : buffer.capacity = capacity := by
  cases h <;> rfl

theorem Standing.length_le {capacity : Nat} {taken : List UInt8} {reports : List Report}
    (h : Standing capacity buffer taken reports) : buffer.length ≤ capacity := by
  cases h with
  | collecting _ hlength => exact hlength
  | skipping => exact Nat.zero_le _

end LineBuffer

/-! ## Inputs -/

/-- What the session of the slot receives in a deed. -/
def Entry.received (slot : Nat) (entry : Entry) : List UInt8 :=
  if entry.deed = .receive slot then
    (entry.before.sessions.get? slot).elim [] fun session =>
      takenFrom (.socket session.control) entry.events
  else []

/-- What the input of the session of the slot reports in a deed. -/
def Entry.report? (slot : Nat) (entry : Entry) : Option Report :=
  if entry.deed = .serve slot then
    (entry.before.sessions.get? slot).bind fun session => session.input.nextReport.1
  else none

/-- All that the session of the slot has received since its admission. -/
def receivedIn (slot : Nat) (history : List Entry) : List UInt8 :=
  (lifetime slot history).reverse.flatMap (Entry.received slot)

/-- The lines that the session of the slot has been served since its admission, with the overflows
between them. -/
def reportsIn (slot : Nat) (history : List Entry) : List Report :=
  (lifetime slot history).reverse.filterMap (Entry.report? slot)

/-- What is done in a deed about what the input of the session of the slot reports. -/
inductive Answered? (slot : Nat) (entry : Entry) : Option Report → Prop
  | line {session : Session} {text : Text} {input : LineBuffer} {result : Status × Session}
    (get : entry.before.sessions.get? slot = some session)
    (run : Exec (Dispatch.dispatch entry.before.setting { session with input } text) entry.events
      result) : Answered? slot entry (some (.line text))
  | overflow {session : Session} (get : entry.before.sessions.get? slot = some session)
    (events_eq : entry.events = [said session.control 500 "Line too long."]) :
    Answered? slot entry (some .overflow)
  | nothing (events_eq : entry.events = []) : Answered? slot entry none

section Deeds

variable {server server' : Server} {older history : List Entry} {entry : Entry} {slot : Nat}
  {session session' : Session} {events : List Event}

theorem receivedIn_cons (get : entry.before.sessions.get? slot = some session) :
    receivedIn slot (entry :: older) = receivedIn slot older ++ entry.received slot := by
  simp [receivedIn, lifetime_cons_of_get get]

theorem reportsIn_cons (get : entry.before.sessions.get? slot = some session) :
    reportsIn slot (entry :: older) = reportsIn slot older ++ (entry.report? slot).toList := by
  rw [reportsIn, lifetime_cons_of_get get, List.reverse_cons, List.filterMap_append]
  cases hreport : entry.report? slot <;> simp [reportsIn, hreport]

theorem ControlRun.length_le {setting : Setting} {result : Bool × Session}
    (h : ControlRun setting session events result) {limit : Nat} {chunk : Chunk limit}
    (hmem : (⟨.receive session.control limit, .ok chunk⟩ : Event) ∈ events) :
    chunk.bytes.length ≤ session.input.spare := by
  cases h with
  | full => cases hmem
  | piece | ended =>
    cases List.mem_singleton.1 hmem
    exact (Chunk.length_le _).trans (Nat.min_le_left _ _)
  | blocked | broken => cases List.mem_singleton.1 hmem

/-- Nothing comes from a connection that is gone. -/
theorem ControlRun.takenFrom_eq_nil {setting : Setting} {result : Bool × Session}
    (h : ControlRun setting session events result)
    (breaks : ∃ event ∈ events, event.flows = false) :
    takenFrom (.socket session.control) events = [] := by
  cases h with
  | full | blocked | broken => rfl
  | piece hchunk =>
    obtain ⟨event, hmem, hbreaks⟩ := breaks
    rw [List.mem_singleton.1 hmem] at hbreaks
    simp [Event.flows, hchunk] at hbreaks
  | ended hchunk => rw [takenFrom_cons, taken_receive, hchunk, takenFrom_nil, List.append_nil]

/-- All that is received goes into the input, and never more than there is room for. -/
theorem ControlRun.input_eq {setting : Setting} {result : Bool × Session}
    (h : ControlRun setting session events result) :
    (takenFrom (.socket session.control) events).length ≤ session.input.spare ∧
      result.2 = { session with
        input := (session.input.extend (takenFrom (.socket session.control) events)).2 } := by
  have hnothing : ([] : List UInt8).length ≤ session.input.spare ∧
      session = { session with input := (session.input.extend []).2 } := by
    rw [extend_nil]
    exact ⟨Nat.zero_le _, rfl⟩
  cases h with
  | full => exact hnothing
  | @piece chunk hchunk =>
    rw [takenFrom_cons, taken_receive, takenFrom_nil, List.append_nil]
    exact ⟨chunk.length_le.trans (Nat.min_le_left _ _), rfl⟩
  | ended hchunk =>
    rw [takenFrom_cons, taken_receive, takenFrom_nil, List.append_nil, hchunk]
    exact hnothing
  | blocked | broken => exact hnothing

theorem Change.input_eq {setting : Setting} {argument : Text} {command : Command}
    (h : Change setting session argument command session') : session'.input = session.input := by
  cases h <;> rfl

theorem Served.input_eq {setting : Setting} {raw : Text}
    (h : Served setting session raw session') : session'.input = session.input := by
  cases h with
  | refused | unknown => rfl
  | run _ _ change => exact change.input_eq

/-- To serve a session takes one report from its input. -/
theorem returns_processInput_input (setting : Setting) (session : Session) :
    (Dispatch.processInput setting session).Returns fun result =>
      result.2.input = session.input.nextReport.2 := by
  rw [Dispatch.processInput_eq]
  cases hnext : session.input.nextReport with
  | mk report? input =>
    rcases report? with - | text | -
    · have hstill : input = session.input := by
        unfold nextReport at hnext
        split at hnext
        · cases hnext
        · split at hnext <;> cases hnext
          rfl
      exact hstill.symm
    · exact (returns_dispatch setting { session with input } text).mono fun _ h => h.input_eq
    · rw [returns_bind, returns_say]
      exact rfl

/-- What is done about a report is what is done in the deed that takes it. -/
theorem answered_of_serve (placed : entry.before.sessions.Placed)
    (get : entry.before.sessions.get? slot = some session) (hdeed : entry.deed = .serve slot)
    (run : Exec (entry.before.perform entry.deed) entry.events server) :
    Answered? slot entry (entry.report? slot) := by
  have hreport : entry.report? slot = session.input.nextReport.1 := by
    rw [Entry.report?, if_pos hdeed, get, Option.bind_some]
  rw [hdeed] at run
  obtain ⟨status, session', hserve, -⟩ := exec_serve placed get run
  rw [hreport]
  rw [Dispatch.processInput_eq] at hserve
  cases hnext : session.input.nextReport with
  | mk report? input =>
    rw [hnext] at hserve
    rcases report? with - | text | -
    · exact .nothing (exec_done_iff.1 hserve).1
    · exact .line get hserve
    · obtain ⟨_, hevents, hdone⟩ := (plays_say ..).of_bind hserve
      rw [(exec_done_iff.1 hdone).1, List.append_nil] at hevents
      exact .overflow get hevents

/-- Only the deeds for a session that receive or serve have to do with its input. -/
theorem Becomes.input_eq {setting : Setting} {deed : Deed}
    (h : Becomes setting session deed session') (hreceive : deed ≠ .receive session.slot)
    (hserve : deed ≠ .serve session.slot) : session'.input = session.input := by
  cases h with
  | kept | advanced => rfl
  | received => exact absurd rfl hreceive
  | heard => exact absurd rfl hserve

/-- What becomes of an input in a deed, for the session that stands in the slot after it. -/
inductive InputRun (slot : Nat) (entry : Entry) : LineBuffer → Prop
  | admitted (free : entry.before.sessions.get? slot = none) :
    InputRun slot entry { capacity := entry.before.config.lineBufferSize.toNat }
  | received {session : Session} (get : entry.before.sessions.get? slot = some session)
    (hdeed : entry.deed = .receive slot)
    (length_le : (entry.received slot).length ≤ session.input.spare) :
    InputRun slot entry (session.input.extend (entry.received slot)).2
  | reported {session : Session} (get : entry.before.sessions.get? slot = some session)
    (hdeed : entry.deed = .serve slot) : InputRun slot entry session.input.nextReport.2
  | kept {session : Session} (get : entry.before.sessions.get? slot = some session)
    (hreceive : entry.deed ≠ .receive slot) (hserve : entry.deed ≠ .serve slot) :
    InputRun slot entry session.input

theorem Outcome.lineBufferSize_eq {deed : Deed} (h : Outcome server deed server') :
    server'.sessions.lineBufferSize = server.sessions.lineBufferSize := by
  cases h with
  | admitted hinsert =>
    obtain ⟨-, -, rfl⟩ := SessionTable.insert_eq_ok hinsert
    rfl
  | _ => rfl

theorem Reachable.lineBufferSize_eq (h : Reachable history server) :
    server.sessions.lineBufferSize = server.config.lineBufferSize.toNat := by
  induction history generalizing server with
  | nil =>
    obtain ⟨config, accounts, hleads⟩ := h
    cases hleads
    rfl
  | cons entry older ih =>
    obtain ⟨hreachable, run⟩ := h.of_cons
    have houtcome := hreachable.outcome run
    rw [houtcome.lineBufferSize_eq, houtcome.config_eq, ih hreachable]

/-- The input of a session that has just been admitted is empty. -/
theorem AcceptRun.input_eq {listener : Socket} {table table' : SessionTable}
    (h : AcceptRun listener table events table') (free : table.get? slot = none)
    (get : table'.get? slot = some session) :
    session.input = { capacity := table.lineBufferSize } := by
  cases h with
  | nobody | rejected | surplus =>
    rw [free] at get
    cases get
  | welcomed insert =>
    obtain ⟨hlt, -, rfl⟩ := SessionTable.insert_eq_ok insert
    rw [SessionTable.get?_put (by exact hlt)] at get
    split at get
    · cases get
      rfl
    · rw [free] at get
      cases get

theorem exec_input (h : Reachable older entry.before)
    (run : Exec (entry.before.perform entry.deed) entry.events server)
    (get : server.sessions.get? slot = some session) : InputRun slot entry session.input := by
  rcases (h.outcome run).get?_eq_some get with ⟨before, hbefore, hbecomes⟩ | ⟨hdeed, hfree, -⟩
  · have hslot := h.placed slot before hbefore
    by_cases hreceive : entry.deed = .receive slot
    · have hreceived : entry.received slot = takenFrom (.socket before.control) entry.events := by
        rw [Entry.received, if_pos hreceive, hbefore]
        rfl
      rw [hreceive] at run
      obtain ⟨alive, after, hrun, hafter⟩ := exec_receive h.placed hbefore run
      rw [hafter, Option.some.injEq] at get
      obtain ⟨hlength, hinput⟩ := (exec_receive_run hrun).input_eq
      rw [← get, show after = _ from hinput, ← hreceived]
      rw [← hreceived] at hlength
      exact .received hbefore hreceive hlength
    · by_cases hserve : entry.deed = .serve slot
      · rw [hserve] at run
        obtain ⟨status, after, hrun, hafter⟩ := exec_serve h.placed hbefore run
        rw [hafter, Option.some.injEq] at get
        have hinput := (returns_processInput_input _ _).of_exec hrun
        rw [← get, show after.input = _ from hinput]
        exact .reported hbefore hserve
      · rw [hbecomes.input_eq (hslot ▸ hreceive) (hslot ▸ hserve)]
        exact .kept hbefore hreceive hserve
  · rw [hdeed] at run
    have hinput : session.input = { capacity := entry.before.sessions.lineBufferSize } := by
      rcases exec_accept run with ⟨-, rfl⟩ | ⟨listener, sessions, -, haccept, rfl⟩
      · rw [hfree] at get
        cases get
      · exact haccept.input_eq hfree get
    rw [h.lineBufferSize_eq] at hinput
    rw [hinput]
    exact .admitted hfree

/-! ## Over a history -/

/-- A deed keeps the capacity of an input. -/
theorem InputRun.capacity_eq {input : LineBuffer} (h : InputRun slot entry input)
    (get : entry.before.sessions.get? slot = some session) :
    input.capacity = session.input.capacity := by
  cases h with
  | admitted free =>
    rw [get] at free
    cases free
  | received get' =>
    cases get.symm.trans get'
    exact capacity_extend _ _
  | reported get' =>
    cases get.symm.trans get'
    exact capacity_nextReport _
  | kept get' =>
    cases get.symm.trans get'
    rfl

/-- In a deed an input takes what is received, and makes its report. -/
theorem InputRun.standing {input : LineBuffer} {capacity : Nat} {taken : List UInt8}
    {reports : List Report} (h : InputRun slot entry input)
    (get : entry.before.sessions.get? slot = some session) (hcapacity : 0 < capacity)
    (standing : Standing capacity session.input taken reports) :
    Standing capacity input (taken ++ entry.received slot)
      (reports ++ (entry.report? slot).toList) := by
  cases h with
  | admitted free =>
    rw [get] at free
    cases free
  | received get' hdeed hlength =>
    cases get.symm.trans get'
    have hreport : entry.report? slot = none := by
      rw [Entry.report?, if_neg (by simp [hdeed])]
    have hstanding := standing.extend (entry.received slot)
    rw [length_taken_of_le_spare hlength, List.take_length] at hstanding
    rwa [hreport, Option.toList_none, List.append_nil]
  | reported get' hdeed =>
    cases get.symm.trans get'
    have hreceived : entry.received slot = [] := by
      rw [Entry.received, if_neg (by simp [hdeed])]
    have hreport : entry.report? slot = session.input.nextReport.1 := by
      rw [Entry.report?, if_pos hdeed, get, Option.bind_some]
    rw [hreceived, hreport, List.append_nil]
    exact standing.nextReport hcapacity
  | kept get' hreceive hserve =>
    cases get.symm.trans get'
    have hreceived : entry.received slot = [] := if_neg hreceive
    have hreport : entry.report? slot = none := if_neg hserve
    rwa [hreceived, hreport, List.append_nil, Option.toList_none, List.append_nil]

/-- An input has been through the latest deed, or is new. -/
theorem Reachable.input_cases (h : Reachable (entry :: older) server)
    (get : server.sessions.get? slot = some session) :
    (∃ before, Reachable older entry.before ∧ entry.before.sessions.get? slot = some before ∧
        InputRun slot entry session.input) ∨
      entry.before.sessions.get? slot = none ∧
        session.input = { capacity := server.config.lineBufferSize.toNat } := by
  obtain ⟨hreachable, run⟩ := h.of_cons
  have hinput := exec_input hreachable run get
  cases hbefore : entry.before.sessions.get? slot with
  | some before => exact .inl ⟨before, hreachable, rfl, hinput⟩
  | none =>
    rw [(hreachable.outcome run).config_eq]
    generalize session.input = input at hinput
    cases hinput with
    | admitted => exact .inr ⟨rfl, rfl⟩
    | received get' | reported get' | kept get' =>
      rw [hbefore] at get'
      cases get'

/-- Every input has the capacity that the configuration gives it. -/
theorem Reachable.inputCapacity_eq (h : Reachable history server)
    (get : server.sessions.get? slot = some session) :
    session.input.capacity = server.config.lineBufferSize.toNat := by
  induction history generalizing server session with
  | nil =>
    obtain ⟨config, accounts, hleads⟩ := h
    cases hleads
    rw [Server.create, SessionTable.get?_free] at get
    cases get
  | cons entry older ih =>
    obtain ⟨hreachable, run⟩ := h.of_cons
    rcases h.input_cases get with ⟨before, hreachable, hbefore, hinput⟩ | ⟨-, hinput⟩
    · rw [hinput.capacity_eq hbefore, ih hreachable hbefore, (hreachable.outcome run).config_eq]
    · rw [hinput]

/-- An input stands where the reports in the past of its session have left it. -/
theorem Reachable.standing (h : Reachable history server)
    (hsize : 0 < server.config.lineBufferSize.toNat)
    (get : server.sessions.get? slot = some session) :
    Standing server.config.lineBufferSize.toNat session.input (receivedIn slot history)
      (reportsIn slot history) := by
  induction history generalizing server session with
  | nil =>
    obtain ⟨config, accounts, hleads⟩ := h
    cases hleads
    rw [Server.create, SessionTable.get?_free] at get
    cases get
  | cons entry older ih =>
    have hconfig := (h.of_cons.1.outcome h.of_cons.2).config_eq
    rcases h.input_cases get with ⟨before, hreachable, hbefore, hinput⟩ | ⟨free, hinput⟩
    · rw [hconfig] at hsize ⊢
      rw [receivedIn_cons hbefore, reportsIn_cons hbefore]
      exact hinput.standing hbefore hsize (ih hreachable hsize hbefore)
    · rw [hinput, receivedIn, reportsIn, lifetime_cons_of_free free]
      exact @Standing.collecting _ [] [] (by simp) (by simp)

/-- What is taken from a control connection is what its session receives. -/
theorem exec_received {opened : Multiset Handle} (placed : entry.before.sessions.Placed)
    (owned : entry.before.Owned opened)
    (run : Exec (entry.before.perform entry.deed) entry.events server)
    (hfresh : ownership.Follows opened entry.events)
    (get : entry.before.sessions.get? slot = some session) :
    takenFrom (.socket session.control) entry.events = entry.received slot := by
  by_cases hdeed : entry.deed = .receive slot
  · rw [Entry.received, if_pos hdeed, get]
    rfl
  · rw [Entry.received, if_neg hdeed]
    refine List.flatMap_eq_nil_iff.2 fun event hmem => ?_
    have hstream : event.request.stream? ≠ some session.control := fun hstream =>
      hdeed (eq_receive_of_stream_control placed owned run hfresh get hmem hstream)
    obtain ⟨request, answer⟩ := event
    cases request with
    | receive socket limit =>
      have hne : Handle.socket session.control ≠ .socket socket := fun heq => by
        cases heq
        exact hstream rfl
      cases answer with
      | error error => rfl
      | ok chunk => simp [Event.taken, Event.taken?, hne]
    | readFile file limit => cases answer <;> simp [Event.taken, Event.taken?]
    | _ => rfl

/-- As long as the platform hands out no handle that is open, a session has received what has been
taken from its control connection. -/
theorem Reachable.received_eq (h : Reachable history server)
    (get : server.sessions.get? slot = some session) (fresh : Fresh history) :
    takenFrom (.socket session.control) (eventsOf (stay slot history)) =
      receivedIn slot history := by
  refine h.session_induction (P := fun history _ session => Fresh history →
    takenFrom (.socket session.control) (eventsOf (stay slot history)) =
      receivedIn slot history) ?_ ?_ get fresh
  · intro older entry server session hdeed hfree run get _ _
    rw [hdeed] at run
    obtain ⟨listener, hevents⟩ := exec_accept_admitted run hfree get
    rw [stay, receivedIn, lifetime_cons_of_free hfree]
    simp [hevents, Event.taken, Event.taken?]
  · intro older entry server session session' hreachable ih hbefore run _ hbecomes fresh
    obtain ⟨hfresh, hevents⟩ := fresh_cons.1 fresh
    have hreceived :=
      exec_received hreachable.placed (hreachable.owned hfresh) run hevents hbefore
    rw [hbecomes.sameClient.control, stay_cons hbefore, eventsOf_cons, takenFrom_append, ih hfresh,
      hreceived, receivedIn_cons hbefore]

end Deeds

/-! ## Room -/

/-- There is room in every buffer, but perhaps not in that of the session of the slot. -/
structure Roomy (history : List Entry) (server : Server) (slot? : Option Nat) : Prop where
  reachable : Reachable history server
  size_pos : 0 < server.config.lineBufferSize.toNat
  spare_pos : ∀ slot session, slot? ≠ some slot → server.sessions.get? slot = some session →
    0 < session.input.spare

section Room

variable {server server' : Server} {older history recent : List Entry} {entry : Entry} {slot : Nat}
  {slot? later? : Option Nat}

/-- To receive may fill a buffer, to be served or closed leaves room in it, and the rest changes
nothing. -/
theorem Roomy.perform (h : Roomy older entry.before slot?)
    (run : Exec (entry.before.perform entry.deed) entry.events server)
    (hreceive : ∀ slot, entry.deed = .receive slot → later? = some slot)
    (hfull : ∀ slot, slot? = some slot → later? ≠ some slot →
      entry.deed = .serve slot ∨ server.sessions.get? slot = none) :
    Roomy (entry :: older) server later? where
  reachable := h.reachable.append (Leads.nil.cons run)
  size_pos := (h.reachable.outcome run).config_eq ▸ h.size_pos
  spare_pos slot session hlater get := by
    have hinput := exec_input h.reachable run get
    generalize session.input = input at hinput
    cases hinput with
    | admitted => exact h.size_pos
    | received _ hdeed => exact absurd (hreceive slot hdeed) hlater
    | @reported before hbefore =>
      have hstanding := h.reachable.standing h.size_pos hbefore
      have hcapacity := hstanding.capacity_eq
      exact spare_nextReport_pos (hcapacity ▸ h.size_pos) (hcapacity ▸ hstanding.length_le)
    | @kept before hbefore _ hserve =>
      refine h.spare_pos slot before (fun hslot => ?_) hbefore
      rcases hfull slot hslot hlater with hdeed | hnone
      · exact hserve hdeed
      · rw [hnone] at get
        cases get

/-- Deeds that receive nothing leave room where it was. -/
theorem Roomy.leads (h : Roomy history server none) (leads : Leads server recent server')
    (hdeeds : ∀ entry ∈ recent, ∀ slot, entry.deed ≠ .receive slot) :
    Roomy (recent ++ history) server' none := by
  induction leads with
  | nil => exact h
  | cons _ run ih =>
    obtain ⟨hdeed, hrest⟩ := List.forall_mem_cons.1 hdeeds
    exact (ih hrest).perform run (fun slot heq => absurd heq (hdeed slot)) nofun

theorem Roomy.weaken (h : Roomy history server none) (slot? : Option Nat) :
    Roomy history server slot? :=
  ⟨h.reachable, h.size_pos, fun slot session _ => h.spare_pos slot session nofun⟩

theorem Roomy.close {last : Entry} (h : Roomy history server (some slot))
    (leads : Leads server [last] server') (hdeed : last.deed = .close slot) :
    Roomy (last :: history) server' none := by
  cases leads with
  | cons leads run =>
    cases leads
    refine h.perform run (fun other heq => ?_) fun other hother _ => .inr ?_
    · rw [hdeed] at heq
      cases heq
    · cases hother
      exact get?_of_close (.inl hdeed) run

theorem Roomy.attended (h : Roomy history server (some slot)) (leads : Leads server recent server')
    (attended : Attended slot recent) : Roomy (recent ++ history) server' none := by
  have hserve : ∀ {entry : Entry} {server' : Server}, entry.deed = .serve slot →
      Leads server [entry] server' → Roomy (entry :: history) server' none := by
    intro entry server' hdeed leads
    cases leads with
    | cons leads run =>
      cases leads
      refine h.perform run (fun other heq => ?_) fun other hother _ => .inl ?_
      · rw [hdeed] at heq
        cases heq
      · cases hother
        exact hdeed
  cases attended with
  | kept hdeed => exact hserve hdeed leads
  | @dismissed entry last hdeed closes =>
    obtain ⟨middle, hentry, hlast⟩ := @Leads.of_append _ _ [last] [entry] leads
    exact ((hserve hdeed hentry).weaken _).close hlast closes

theorem Roomy.receive (h : Roomy history server none) (leads : Leads server [entry] server')
    (hdeed : entry.deed = .receive slot) : Roomy (entry :: history) server' (some slot) := by
  cases leads with
  | cons leads run =>
    cases leads
    refine h.perform run (fun other heq => ?_) nofun
    rw [hdeed] at heq
    cases heq
    rfl

theorem Roomy.turn (h : Roomy history server none) (leads : Leads server recent server')
    (turn : Turn slot recent) : Roomy (recent ++ history) server' none := by
  cases turn with
  | absent =>
    cases leads
    exact h
  | calm attended => exact (h.weaken _).attended leads attended
  | heard hdeed _ attended =>
    obtain ⟨middle, hentry, hrest⟩ := leads.of_append
    rw [List.append_assoc]
    exact (h.receive hentry hdeed).attended hrest attended
  | @gone entry last hdeed _ closes =>
    obtain ⟨middle, hentry, hlast⟩ := @Leads.of_append _ _ [last] [entry] leads
    exact (h.receive hentry hdeed).close hlast closes

theorem Roomy.turns {slots : List Nat} (h : Roomy history server none)
    (leads : Leads server recent server') (turns : Turns slots recent) :
    Roomy (recent ++ history) server' none := by
  induction turns generalizing history server with
  | nil =>
    cases leads
    exact h
  | cons turn _ ih =>
    obtain ⟨middle, hfirst, hrest⟩ := leads.of_append
    rw [List.append_assoc]
    exact ih (h.turn hfirst turn) hrest

/-- A pass leaves room in every buffer. -/
theorem Roomy.pass (h : Roomy history server none) (pass : Pass server recent server') :
    Roomy (recent ++ history) server' none := by
  obtain ⟨hleads, hstages⟩ := pass
  obtain ⟨hsteps, hpoll, hadmissions, -, hturns, hclock, hdepartures⟩ := hstages
  rename_i steps admissions turns departures poll clock slots idle
  have hbefore : ∀ entry ∈ admissions ++ poll :: steps, ∀ slot, entry.deed ≠ .receive slot := by
    intro entry hmem slot heq
    rcases List.mem_append.1 hmem with hmem | hmem
    · rcases hadmissions with rfl | ⟨entry', rfl, hdeed⟩
      · cases hmem
      · rw [List.mem_singleton.1 hmem, hdeed] at heq
        cases heq
    · rcases List.mem_cons.1 hmem with rfl | hmem
      · rw [hpoll] at heq
        cases heq
      · obtain ⟨other, hdeed⟩ := hsteps.exists_slot entry hmem
        rw [hdeed] at heq
        cases heq
  have hafter : ∀ entry ∈ departures ++ [clock], ∀ slot, entry.deed ≠ .receive slot := by
    intro entry hmem slot heq
    rcases List.mem_append.1 hmem with hmem | hmem
    · obtain ⟨other, hdeed⟩ := hdepartures.exists_slot entry hmem
      rw [hdeed] at heq
      cases heq
    · rw [List.mem_singleton.1 hmem, hclock] at heq
      cases heq
  have hstages : departures ++ clock :: turns ++ admissions ++ poll :: steps =
      (departures ++ [clock]) ++ (turns ++ (admissions ++ poll :: steps)) := by
    simp
  rw [hstages] at hleads ⊢
  obtain ⟨middle, hleads, hlast⟩ := hleads.of_append
  obtain ⟨first, hfirst, hmiddle⟩ := hleads.of_append
  have hleft := ((h.leads hfirst hbefore).turns hmiddle hturns).leads hlast hafter
  rwa [← List.append_assoc turns, ← List.append_assoc] at hleft

/-- Between two calls there is room in every buffer. -/
theorem Settled.roomy (h : Settled history server)
    (hsize : 0 < server.config.lineBufferSize.toNat) : Roomy history server none := by
  induction h with
  | created config accounts =>
    refine ⟨⟨config, accounts, .nil⟩, hsize, fun slot session _ get => ?_⟩
    rw [Server.create, SessionTable.get?_free] at get
    cases get
  | called h hdeed run ih =>
    have hconfig := (h.reachable.outcome run).config_eq
    refine (ih (hconfig ▸ hsize)).perform run (fun slot heq => ?_) (by simp)
    cases (show _ = Deed.receive slot from heq)
    cases hdeed
  | passed h pass ih =>
    have hconfig := pass.leads.config_eq h.reachable.placed
    exact (ih (hconfig ▸ hsize)).pass pass
  | shut h leads closings_each last_deed ih =>
    have hconfig := leads.config_eq h.reachable.placed
    refine (ih (hconfig ▸ hsize)).leads leads fun entry hmem slot heq => ?_
    rcases List.mem_cons.1 hmem with rfl | hmem
    · rw [last_deed] at heq
      cases heq
    · obtain ⟨other, hdeed⟩ := closings_each.exists_slot entry hmem
      rw [hdeed] at heq
      cases heq

end Room

/-! ## Hearing everything -/

/-- How a server hears its clients. -/
structure Attentive (history : List Entry) (server : Server) : Prop where
  /-- Between two calls there is room in every buffer. -/
  room : Settled history server → ∀ slot session, server.sessions.get? slot = some session →
    0 < session.input.spare
  /-- The pass that follows looks at every control connection. -/
  watched : Settled history server → ∀ listener events result,
    server.listener = some listener → Exec server.runOnce events result →
    ∃ sockets wait answer, (⟨.poll sockets wait, answer⟩ : Event) ∈ events ∧
      ∀ slot session, server.sessions.get? slot = some session → session.control ∈ sockets
  /-- It serves each session one line at most, or tells it that one is too long. -/
  single : Settled history server → ∀ events result, Exec server.runOnce events result →
    ∃ recent, Settled (recent ++ history) result.2 ∧ eventsOf recent = events ∧
      ∀ slot, (recent.filterMap (Entry.report? slot)).length ≤ 1
  /-- A buffer takes whatever is received for it. -/
  taken : ∀ entry ∈ history, ∀ slot session, entry.deed = .receive slot →
    entry.before.sessions.get? slot = some session → ∀ limit (chunk : Chunk limit),
    (⟨.receive session.control limit, .ok chunk⟩ : Event) ∈ entry.events →
    (session.input.extend chunk.bytes).1 = chunk.bytes.length
  /-- What is received is all that is taken from the control connection. -/
  received : Fresh history → ∀ slot session, server.sessions.get? slot = some session →
    takenFrom (.socket session.control) (eventsOf (stay slot history)) = receivedIn slot history
  /-- What is reported is dispatched, or answered as too long. -/
  answered : ∀ entry ∈ history, ∀ slot session,
    entry.before.sessions.get? slot = some session → entry.deed = .serve slot →
    Answered? slot entry (entry.report? slot)
  /-- The reports are the first ones of the split of all that has been received. -/
  reports : ∀ slot session, server.sessions.get? slot = some session →
    reportsIn slot history <+:
      split server.config.lineBufferSize.toNat (receivedIn slot history)
  /-- They are all of them once no complete line is left. -/
  complete : Settled history server → ∀ slot session, server.sessions.get? slot = some session →
    session.input.hasLine = false →
    reportsIn slot history = split server.config.lineBufferSize.toNat (receivedIn slot history)

section Histories

variable {server : Server} {history recent : List Entry} {slot : Nat}

theorem length_filterMap_report_le (slot : Nat) (recent : List Entry) :
    (recent.filterMap (Entry.report? slot)).length ≤ tally (.serve slot) recent := by
  induction recent with
  | nil => exact le_rfl
  | cons entry recent ih =>
    rw [tally_cons]
    by_cases hdeed : entry.deed = .serve slot
    · rw [if_pos hdeed, List.filterMap_cons]
      split
      · exact ih.trans (Nat.le_succ _)
      · exact Nat.succ_le_succ ih
    · have hreport : entry.report? slot = none := if_neg hdeed
      rw [if_neg hdeed, List.filterMap_cons_none hreport]
      exact ih

/-- Whatever the sizes of the pieces in which its clients' bytes arrive, and whatever else it does,
a server loses none of them and keeps looking at every client. -/
theorem attentive_of_reachable (h : Reachable history server)
    (hsize : 0 < server.config.lineBufferSize.toNat) : Attentive history server where
  room hsettled slot session get := (hsettled.roomy hsize).spare_pos slot session nofun get
  watched hsettled listener events result hlistener run := by
    obtain ⟨sockets, wait, answer, hmem, -, hsockets⟩ :=
      exec_runOnce_poll h.placed hlistener run
    refine ⟨sockets, wait, answer, hmem, fun slot session get => ?_⟩
    exact hsockets slot session get ((hsettled.roomy hsize).spare_pos slot session nofun get)
  single hsettled events result run := by
    obtain ⟨recent, hsettled', hevents, hpass⟩ := hsettled.exists_of_runOnce run
    refine ⟨recent, hsettled', hevents, fun slot => ?_⟩
    rcases hpass with rfl | hpass
    · exact Nat.zero_le 1
    · exact (length_filterMap_report_le slot recent).trans (hpass.tally_serve slot)
  taken entry hmem slot session hdeed get limit chunk hevent := by
    obtain ⟨older, server', hreachable, run⟩ := h.exists_of_mem hmem
    rw [hdeed] at run
    obtain ⟨alive, session', hreceive, -⟩ := exec_receive hreachable.placed get run
    exact length_taken_of_le_spare ((exec_receive_run hreceive).length_le hevent)
  received fresh slot session get := h.received_eq get fresh
  answered entry hmem slot session get hdeed := by
    obtain ⟨older, server', hreachable, run⟩ := h.exists_of_mem hmem
    exact answered_of_serve hreachable.placed get hdeed run
  reports slot session get := (h.standing hsize get).isPrefix
  complete hsettled slot session get hline := by
    have hspare := (hsettled.roomy hsize).spare_pos slot session nofun get
    refine (h.standing hsize get).eq_split ?_ (overflowed_of_spare hspare)
    rw [nextLine?, Option.map_eq_none_iff]
    exact Option.isNone_iff_eq_none.1 (Option.isSome_eq_false_iff.1 hline)

/-- Two lines that arrive together are served in two passes. -/
def twoLines : List Event × Server × Simulation.World :=
  passes {} { name := "ada", password := [], root := "/srv/ftp", rights := .all } {}
    "USER ada\r\nPASS x\r\n".toList false 3

theorem attentive_of_reachable_twoLines :
    takenFrom (.socket ⟨2⟩) twoLines.1 = Utf8.encode "USER ada\r\nPASS x\r\n".toList ∧
      (repliesIn twoLines.1).map (fun reply => reply.2.code) = [220, 331, 230] ∧
      (twoLines.2.1.sessions.get? 0).map (fun session => session.input.hasLine) = some false ∧
      ∃ history, Settled history twoLines.2.1 ∧ Reachable history twoLines.2.1 ∧
        0 < twoLines.2.1.config.lineBufferSize.toNat ∧ Attentive history twoLines.2.1 := by
  obtain ⟨recent, hsettled, -⟩ := exists_settled_passes {}
    { name := "ada", password := [], root := "/srv/ftp", rights := .all } {}
    "USER ada\r\nPASS x\r\n".toList false 3
  have hsize : 0 < twoLines.2.1.config.lineBufferSize.toNat := by decide +kernel
  exact ⟨by decide +kernel, by decide +kernel, by decide +kernel, _, hsettled, hsettled.reachable,
    hsize, attentive_of_reachable hsettled.reachable hsize⟩

end Histories

end Ftp
