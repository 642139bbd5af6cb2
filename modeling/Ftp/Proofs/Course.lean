import Ftp.Proofs.Conduit

/-!
# The course of a transfer

What happens to a transfer from the opening of its file on, whatever else the server does in the
meantime. All that is done for it is done in its steps, until it has ended or is given up.

* `Pursued.perform`: what one deed makes of a transfer;
* `Reachable.course`: every transfer over every history;
* `Fate.turnout`: what comes of a transfer, by what holds of its steps.
-/

namespace Ftp

open Program

section Steps

variable {conduit : Conduit} {chunkSize : Nat} {begun transmission transmission' : Transmission}
  {events : List Event}

/-- The steps of a transfer one after the other, with what is left of it. -/
inductive Course (chunkSize : Nat) (control : Socket) (begun : Transmission) :
    List (List Event) → Transmission → Prop
  | first {events : List Event} {transmission : Transmission}
    (h : StepRun chunkSize control begun events transmission) :
    Course chunkSize control begun [events] transmission
  | next {steps : List (List Event)} {events : List Event}
    {transmission transmission' : Transmission}
    (h : Course chunkSize control begun steps transmission)
    (step : StepRun chunkSize control transmission events transmission') :
    Course chunkSize control begun (steps ++ [events]) transmission'

theorem StepRun.isActive {control : Socket}
    (h : StepRun chunkSize control transmission events transmission') :
    transmission.isActive = true := by
  cases h <;> rfl

theorem Course.through {steps : List (List Event)}
    (h : Course chunkSize conduit.control begun steps transmission)
    (through : begun.Through conduit) (hactive : transmission.isActive = true) :
    transmission.Through conduit := by
  induction h with
  | first h => exact h.through through hactive
  | next _ step ih => exact step.through (ih step.isActive) hactive

end Steps

/-! ## From deed to deed -/

/-- What is done for the transfer in each of its steps: in the first one, right when it begins, and
in those that follow. -/
def stepsOf (conduit : Conduit) (slot : Nat) (first : List Event) (during : List Entry) :
    List (List Event) :=
  doneFor conduit first ::
    (during.reverse.filter fun entry => entry.deed = .advance slot).map fun entry =>
      doneFor conduit entry.events

/-- All that has been done for the transfer, in its first step and in the entries, has been done in
its steps, and this has left the session with what it has. -/
structure Pursued (chunkSize slot : Nat) (conduit : Conduit) (begun : Transmission)
    (first : List Event) (during : List Entry) (session : Session) : Prop where
  control : session.control = conduit.control
  course : Course chunkSize conduit.control begun (stepsOf conduit slot first during)
    session.transmission
  aside : ∀ entry ∈ during, entry.deed ≠ .advance slot → doneFor conduit entry.events = []

section Pursuit

variable {chunkSize slot : Nat} {conduit : Conduit} {begun : Transmission} {first : List Event}
  {during : List Entry} {session session' : Session} {server server' : Server} {deed : Deed}
  {events : List Event} {opened : Multiset Handle}

theorem stepsOf_advance (events : List Event) :
    stepsOf conduit slot first (⟨server, .advance slot, events⟩ :: during) =
      stepsOf conduit slot first during ++ [doneFor conduit events] := by
  simp [stepsOf, List.filter_append]

theorem stepsOf_of_ne (hdeed : deed ≠ .advance slot) (events : List Event) :
    stepsOf conduit slot first (⟨server, deed, events⟩ :: during) =
      stepsOf conduit slot first during := by
  simp [stepsOf, List.filter_append, hdeed]

theorem flatten_stepsOf
    (aside : ∀ entry ∈ during, entry.deed ≠ .advance slot → doneFor conduit entry.events = []) :
    (stepsOf conduit slot first during).flatten = doneFor conduit (first ++ eventsOf during) := by
  induction during with
  | nil => simp [stepsOf]
  | cons entry during ih =>
    obtain ⟨server, deed, events⟩ := entry
    have ih := ih fun entry hmem => aside entry (List.mem_cons_of_mem _ hmem)
    rw [eventsOf_cons, ← List.append_assoc, doneFor_append, ← ih]
    by_cases hdeed : deed = .advance slot
    · subst hdeed
      rw [stepsOf_advance, List.flatten_append, List.flatten_singleton]
    · have hnothing : doneFor conduit events = [] := aside _ List.mem_cons_self hdeed
      rw [stepsOf_of_ne hdeed, hnothing, List.append_nil]

theorem Pursued.carries (h : Pursued chunkSize slot conduit begun first during session)
    (through : begun.Through conduit) (hactive : session.isTransferring = true) :
    session.Carries conduit :=
  ⟨h.control, h.course.through through hactive⟩

/-- Something else happens. -/
theorem Pursued.pass (h : Pursued chunkSize slot conduit begun first during session)
    (hdeed : deed ≠ .advance slot) (hnothing : doneFor conduit events = [])
    (hcontrol : session'.control = session.control)
    (hsame : session'.transmission = session.transmission) :
    Pursued chunkSize slot conduit begun first (⟨server, deed, events⟩ :: during) session' where
  control := hcontrol.trans h.control
  course := by
    rw [stepsOf_of_ne hdeed, hsame]
    exact h.course
  aside entry hmem hentry := by
    rcases List.mem_cons.1 hmem with rfl | hmem
    · exact hnothing
    · exact h.aside entry hmem hentry

/-- A step is taken. -/
theorem Pursued.advance (h : Pursued chunkSize slot conduit begun first during session)
    (hcontrol : session'.control = session.control)
    (step : StepRun chunkSize conduit.control session.transmission (doneFor conduit events)
      session'.transmission) :
    Pursued chunkSize slot conduit begun first (⟨server, .advance slot, events⟩ :: during)
      session' where
  control := hcontrol.trans h.control
  course := by
    rw [stepsOf_advance]
    exact h.course.next step
  aside entry hmem hentry := by
    rcases List.mem_cons.1 hmem with rfl | hmem
    · exact absurd rfl hentry
    · exact h.aside entry hmem hentry

/-- A line that is served does nothing for the transfer, or aborts it. -/
theorem LineRun.serves {setting : Setting} {raw : Text} {result : Status × Session}
    (h : LineRun setting session raw events result) (carries : session.Carries conduit) :
    result.2.control = session.control ∧
      (doneFor conduit events = [] ∧ result.2.transmission = session.transmission ∨
        doneFor conduit events =
          conduit.closing ++ [said conduit.control 226 "ABOR successful."] ∧
        result.2.isTransferring = false) := by
  cases h with
  | unknown _ now | quit _ now =>
    exact ⟨rfl, .inl ⟨(doneFor_append [_] [_]).trans (by rw [doneFor_said _ rfl]; rfl), rfl⟩⟩
  | notLoggedIn | denied => exact ⟨rfl, .inl ⟨doneFor_said _ rfl, rfl⟩⟩
  | ignored => exact ⟨rfl, .inl ⟨rfl, rfl⟩⟩
  | abor _ now =>
    refine ⟨rfl, .inr ⟨?_, rfl⟩⟩
    have hsaid : doneFor conduit [said conduit.control 226 "ABOR successful."] = [_] :=
      doneFor_eq_self (by simp [Request.serves, Reply.concludes, Reply.code])
    rw [carries.through.released, carries.control, List.append_cons, doneFor_append,
      doneFor_append, doneFor_eq_self serves_of_closing, hsaid, doneFor_clock]
    exact List.append_nil _

theorem exec_processInput_transferring {setting : Setting} {result : Status × Session}
    (hactive : session.isTransferring = true)
    (run : Exec (Dispatch.processInput setting session) events result) :
    (∃ input raw, LineRun setting { session with input } raw events result) ∨
      (∃ input, result.2 = { session with input }) ∧
        (events = [] ∨ events = [said session.control 500 "Line too long."]) := by
  cases exec_processInput run with
  | @line raw input _ _ next hline =>
    have hactive' : ({ session with input } : Session).isTransferring = true := hactive
    exact .inl ⟨input, raw, exec_dispatch_transferring hactive' hline⟩
  | overlong => exact .inr ⟨⟨_, rfl⟩, .inr rfl⟩
  | nothing => exact .inr ⟨⟨_, rfl⟩, .inl rfl⟩

/-- The runs of receiving from a control connection, with whether it is still there. -/
inductive ControlRun (setting : Setting) (session : Session) : List Event → Bool × Session → Prop
  /-- The input takes nothing more. -/
  | full : ControlRun setting session [] (true, session)
  | piece {chunk : Chunk (min session.input.spare setting.config.chunkSize.toNat)}
    (hchunk : chunk.bytes ≠ []) :
    ControlRun setting session [⟨.receive session.control _, .ok chunk⟩]
      (true, { session with input := (session.input.extend chunk.bytes).2 })
  /-- The client has closed its end. -/
  | ended {chunk : Chunk (min session.input.spare setting.config.chunkSize.toNat)}
    (hchunk : chunk.bytes = []) :
    ControlRun setting session [⟨.receive session.control _, .ok chunk⟩] (false, session)
  | blocked {error : IoError} (hkind : error.kind = .wouldBlock ∨ error.kind = .interrupted) :
    ControlRun setting session
      [⟨.receive session.control (min session.input.spare setting.config.chunkSize.toNat),
        .error error⟩] (true, session)
  | broken {error : IoError} (hblocked : error.kind ≠ .wouldBlock)
    (hinterrupted : error.kind ≠ .interrupted) :
    ControlRun setting session
      [⟨.receive session.control (min session.input.spare setting.config.chunkSize.toNat),
        .error error⟩] (false, session)

theorem exec_receive_run {setting : Setting} {result : Bool × Session}
    (run : Exec (Server.receive setting session) events result) :
    ControlRun setting session events result := by
  simp only [Server.receive] at run
  split at run
  · obtain ⟨rfl, rfl⟩ := exec_done_iff.1 run
    exact .full
  · simp only [request, ask_bind, done_bind, exec_ask_iff] at run
    obtain ⟨received, rest, rfl, hrest⟩ := run
    cases received with
    | ok chunk =>
      simp only [] at hrest
      split at hrest
      · rename_i hchunk
        obtain ⟨rfl, rfl⟩ := exec_done_iff.1 hrest
        exact .ended hchunk
      · rename_i hchunk
        obtain ⟨rfl, rfl⟩ := exec_done_iff.1 hrest
        exact .piece hchunk
    | error error =>
      simp only [] at hrest
      split at hrest
      · rename_i hkind
        obtain ⟨rfl, rfl⟩ := exec_done_iff.1 hrest
        exact .blocked (.inl hkind)
      · rename_i hkind
        obtain ⟨rfl, rfl⟩ := exec_done_iff.1 hrest
        exact .blocked (.inr hkind)
      · rename_i hblocked hinterrupted
        obtain ⟨rfl, rfl⟩ := exec_done_iff.1 hrest
        exact .broken hblocked hinterrupted

theorem exec_receive_control {setting : Setting} {alive : Bool}
    (run : Exec (Server.receive setting session) events (alive, session')) :
    ∀ event ∈ events, ∃ limit, event.request = .receive session.control limit := by
  have hevent : ∀ {event : Event} {limit : Nat} {answer : Except IoError (Chunk limit)},
      event ∈ [⟨.receive session.control limit, answer⟩] →
        ∃ limit, event.request = .receive session.control limit :=
    fun hmem => ⟨_, congrArg Event.request (List.mem_singleton.1 hmem)⟩
  cases exec_receive_run run with
  | full => exact fun event hmem => by cases hmem
  | piece | ended | blocked | broken => exact fun event hmem => hevent hmem

/-- In each deed a transfer goes on, or comes to its end, or is given up. -/
theorem Pursued.perform (h : Pursued chunkSize slot conduit begun first during session)
    (through : begun.Through conduit) (hactive : session.isTransferring = true)
    (placed : server.sessions.Placed) (owned : server.Owned opened)
    (hchunk : server.config.chunkSize.toNat = chunkSize)
    (get : server.sessions.get? slot = some session)
    (run : Exec (server.perform deed) events server')
    (hfresh : ownership.Follows opened events) :
    (∃ session', server'.sessions.get? slot = some session' ∧
        Pursued chunkSize slot conduit begun first (⟨server, deed, events⟩ :: during) session') ∨
      GivenUp slot conduit ⟨server, deed, events⟩ server' := by
  have carries := h.carries through hactive
  have hnodup := owned.nodup_handles get
  by_cases hslot : deed.slot? = some slot
  · cases deed with
    | start | register | poll | accept | readClock | unlisten => cases hslot
    | advance =>
      cases hslot
      obtain ⟨outcome, session', hstep, get'⟩ := exec_advance placed get run
      obtain ⟨now, moved, transmission, rfl, hmoved, rfl, -⟩ := exec_step hactive hstep
      refine .inl ⟨_, get', h.advance rfl ?_⟩
      rw [carries.control] at hmoved
      rw [doneFor_clock, doneFor_eq_self (hmoved.serves carries.through), ← hchunk]
      exact hmoved
    | receive =>
      cases hslot
      obtain ⟨alive, session', hreceive, get'⟩ := exec_receive placed get run
      obtain ⟨input, hsame⟩ := (returns_receive server.setting session).of_exec hreceive
      obtain rfl : session' = { session with input } := hsame
      refine .inl ⟨_, get', h.pass (fun heq => by cases heq) (doneFor_eq_nil ?_) rfl rfl⟩
      have hapart := carries.socket_notMem hnodup
      intro event hmem
      obtain ⟨limit, hrequest⟩ := exec_receive_control hreceive event hmem
      rw [hrequest, carries.control]
      simp only [Request.serves, decide_eq_false_iff_not]
      rintro heq
      simp [heq] at hapart
    | serve =>
      cases hslot
      obtain ⟨status, session', hprocess, get'⟩ := exec_serve placed get run
      have hne : Deed.serve slot ≠ .advance slot := fun heq => by cases heq
      rcases exec_processInput_transferring hactive hprocess with
        ⟨input, raw, hline⟩ | ⟨⟨input, hsame⟩, hevents⟩
      · have carries' : ({ session with input } : Session).Carries conduit :=
          ⟨carries.control, carries.through⟩
        obtain ⟨hcontrol, ⟨hnothing, hsame⟩ | ⟨hdone, hidle⟩⟩ := hline.serves carries'
        · exact .inl ⟨session', get', h.pass hne hnothing hcontrol hsame⟩
        · exact .inr (.aborted rfl get' hidle hdone)
      · obtain rfl : session' = { session with input } := hsame
        refine .inl ⟨_, get', h.pass hne ?_ rfl rfl⟩
        rcases hevents with rfl | rfl
        · rfl
        · exact doneFor_said _ rfl
    | close =>
      cases hslot
      exact .inr (carries.givenUp hnodup (.inl rfl) get run)
    | expire =>
      cases hslot
      exact .inr (carries.givenUp hnodup (.inr rfl) get run)
  · have houtcome := (returns_perform placed deed).of_exec run
    refine .inl ⟨session, houtcome.get?_of_foreign get hslot, h.pass ?_ ?_ rfl rfl⟩
    · rintro rfl
      exact hslot rfl
    · exact carries.doneFor_eq_nil owned run hfresh get hslot

end Pursuit

/-! ## From the opening of the file on -/

/-- The file of a transfer is opened in an entry, between these events: the session of the slot
serves a line. -/
structure Starts (entry : Entry) (before after : List Event) (path : Text) (mode : OpenMode)
    (slot : Nat) (conduit : Conduit) (begun : Transmission) : Prop where
  deed : entry.deed = .serve slot
  client : ∃ session, entry.before.sessions.get? slot = some session ∧
    session.control = conduit.control
  begins : Begins path conduit.file conduit.socket before mode begun
  opening : ∃ session', Opening entry.before.config.chunkSize.toNat conduit.control conduit.socket
    begun before after session'

/-- What has become of a transfer up to now, when these entries belong to it and later ones do
not. -/
inductive Fate (chunkSize slot : Nat) (conduit : Conduit) (begun : Transmission)
    (first : List Event) (server : Server) : (later during : List Entry) → Server → Prop
  | underway {during : List Entry} {session : Session}
    (get : server.sessions.get? slot = some session) (active : session.isTransferring = true)
    (pursued : Pursued chunkSize slot conduit begun first during session) :
    Fate chunkSize slot conduit begun first server [] during server
  | finished {later during : List Entry} {middle : Server} {session : Session}
    (get : middle.sessions.get? slot = some session) (idle : session.isTransferring = false)
    (pursued : Pursued chunkSize slot conduit begun first during session) :
    Fate chunkSize slot conduit begun first server later during middle
  | givenUp {later during : List Entry} {entry : Entry} {middle : Server} {session : Session}
    (get : entry.before.sessions.get? slot = some session) (active : session.isTransferring = true)
    (pursued : Pursued chunkSize slot conduit begun first during session)
    (up : GivenUp slot conduit entry middle) :
    Fate chunkSize slot conduit begun first server later (entry :: during) middle

/-- What comes of a transfer up to now: it goes on, has come to its end, or has been given up. What
has been done for it is as required, in its steps while it goes on, and before the reply that
concludes it. -/
inductive Turnout (slot : Nat) (conduit : Conduit) (first : List Event)
    (going : Transmission → List (List Event) → Prop)
    (concluded : List Event → Nat → Text → Prop) (server : Server) :
    (later during : List Entry) → Server → Prop
  | underway {during : List Entry} {session : Session}
    (get : server.sessions.get? slot = some session)
    (done : doneFor conduit (first ++ eventsOf during) =
      (stepsOf conduit slot first during).flatten)
    (goes : going session.transmission (stepsOf conduit slot first during)) :
    Turnout slot conduit first going concluded server [] during server
  | ended {later during : List Entry} {middle : Server} {session : Session} {moved : List Event}
    {code : Nat} {text : Text} (get : middle.sessions.get? slot = some session)
    (idle : session.transmission = .idle)
    (done : doneFor conduit (first ++ eventsOf during) = moved ++ conduit.ending code text)
    (why : concluded moved code text) :
    Turnout slot conduit first going concluded server later during middle
  | givenUp {later during : List Entry} {entry : Entry} {middle : Server} {session : Session}
    (get : entry.before.sessions.get? slot = some session)
    (done : doneFor conduit (first ++ eventsOf during) =
      (stepsOf conduit slot first during).flatten)
    (goes : going session.transmission (stepsOf conduit slot first during))
    (up : GivenUp slot conduit entry middle) :
    Turnout slot conduit first going concluded server later (entry :: during) middle

section Histories

variable {chunkSize slot : Nat} {conduit : Conduit} {begun : Transmission} {first : List Event}
  {newer later during older : List Entry} {entry : Entry} {session : Session} {server : Server}
  {middle : Server} {before after : List Event} {path : Text} {mode : OpenMode} {file : File}

/-- A session that has been pursued goes on with the transfer, or is through with it. -/
theorem Fate.of_pursued (pursued : Pursued chunkSize slot conduit begun first during session)
    (get : server.sessions.get? slot = some session) :
    Fate chunkSize slot conduit begun first server [] during server := by
  cases hactive : session.isTransferring with
  | true => exact .underway get hactive pursued
  | false => exact .finished get hactive pursued

theorem Begins.through (h : Begins path conduit.file conduit.socket before mode begun) :
    begun.Through conduit := by
  cases h <;> exact ⟨rfl, rfl⟩

/-- The configuration stays. -/
theorem Reachable.config_eq (h : Reachable (newer ++ entry :: older) server) :
    server.config = entry.before.config := by
  induction newer generalizing server with
  | nil =>
    obtain ⟨hreachable, run⟩ := h.of_cons
    exact (hreachable.outcome run).config_eq
  | cons last newer ih =>
    obtain ⟨hreachable, run⟩ := h.of_cons
    exact (hreachable.outcome run).config_eq.trans (ih hreachable)

/-- The first step of a transfer. -/
theorem Opening.pursued {session' : Session} (hcontrol : session'.control = conduit.control)
    (begins : Begins path conduit.file conduit.socket before mode begun)
    (h : Opening chunkSize conduit.control conduit.socket begun before after session') :
    Pursued chunkSize slot conduit begun after [] session' where
  control := hcontrol
  course := by
    obtain ⟨now, moved, later, rfl, hlater, hstep⟩ := h.step
    have hnothing : doneFor conduit later = [] := doneFor_eq_nil fun event hmem => by
      rw [hlater event hmem]
      rfl
    have hfirst : doneFor conduit (⟨.unixTime, now⟩ :: moved ++ later) = moved := by
      rw [doneFor_append, hnothing, List.append_nil, doneFor_clock]
      exact doneFor_eq_self (hstep.serves begins.through)
    rw [stepsOf, hfirst]
    exact .first hstep
  aside _ hmem := by cases hmem

/-- One more deed. -/
theorem Fate.cons {server' : Server} {deed : Deed} {events : List Event}
    (h : Fate chunkSize slot conduit begun first server later during middle)
    (through : begun.Through conduit) (placed : server.sessions.Placed) {opened : Multiset Handle}
    (owned : server.Owned opened) (hchunk : server.config.chunkSize.toNat = chunkSize)
    (run : Exec (server.perform deed) events server')
    (hfresh : ownership.Follows opened events) :
    (middle = server ∧ later = [] ∧ Fate chunkSize slot conduit begun first server' []
      (⟨server, deed, events⟩ :: during) server') ∨
    Fate chunkSize slot conduit begun first server' (⟨server, deed, events⟩ :: later) during
      middle := by
  cases h with
  | underway get active pursued =>
    refine .inl ⟨rfl, rfl, ?_⟩
    rcases pursued.perform through active placed owned hchunk get run hfresh with
      ⟨session', get', h⟩ | up
    · exact .of_pursued h get'
    · exact .givenUp get active pursued up
  | finished get idle pursued => exact .inr (.finished get idle pursued)
  | givenUp get active pursued up => exact .inr (.givenUp get active pursued up)

/-- Whenever a file has been opened, a transfer has begun, and goes on up to now, has come to its
end or has been given up. -/
theorem Reachable.course (h : Reachable (newer ++ entry :: older) server)
    (fresh : Fresh (newer ++ entry :: older))
    (opened : entry.events = before ++ ⟨.openFile path mode, .ok file⟩ :: after) :
    ∃ slot socket control begun,
      Starts entry before after path mode slot ⟨control, socket, file⟩ begun ∧
      ∃ later during middle, newer = later ++ during ∧
        Reachable (during ++ entry :: older) middle ∧
        Fate entry.before.config.chunkSize.toNat slot ⟨control, socket, file⟩ begun after server
          later during middle := by
  induction newer generalizing server with
  | nil =>
    obtain ⟨config, accounts, hleads⟩ := h
    cases hleads with
    | @cons _ older _ deed events hleads run =>
      have hreachable : Reachable _ _ := ⟨config, accounts, hleads⟩
      simp only at opened
      subst opened
      obtain ⟨slot, session, socket, begun, session', rfl, get, get', same, begins, opening⟩ :=
        exists_opening hreachable.placed run
      refine ⟨slot, socket, session.control, begun, ⟨rfl, ⟨session, get, rfl⟩, begins, _, opening⟩,
        [], [], server, rfl, ⟨config, accounts, hleads.cons run⟩, ?_⟩
      exact .of_pursued (opening.pursued same.control begins) get'
  | cons last newer ih =>
    have hconfig := h
    obtain ⟨config, accounts, hleads⟩ := h
    obtain ⟨hbefore, hevents⟩ := fresh_cons.1 fresh
    cases hleads with
    | @cons _ server _ deed events hleads run =>
      have hreachable : Reachable (newer ++ entry :: older) server := ⟨config, accounts, hleads⟩
      obtain ⟨slot, socket, control, begun, starts, later, during, middle, rfl, hmiddle, fate⟩ :=
        ih hreachable hbefore
      refine ⟨slot, socket, control, begun, starts, ?_⟩
      rcases fate.cons starts.begins.through hreachable.placed (hreachable.owned hbefore)
        (congrArg (fun config => config.chunkSize.toNat) hreachable.config_eq) run hevents with
        ⟨rfl, rfl, hfate⟩ | hfate
      · exact ⟨[], _, _, rfl, ⟨config, accounts, hleads.cons run⟩, hfate⟩
      · exact ⟨_, during, middle, rfl, hmiddle, hfate⟩

theorem GivenUp.deed_ne (h : GivenUp slot conduit entry middle) : entry.deed ≠ .advance slot := by
  cases h with
  | aborted deed => rw [deed]; exact fun heq => by cases heq
  | closed deed => rcases deed with deed | deed <;> rw [deed] <;> exact fun heq => by cases heq

/-- All that is done for a transfer is done in its steps, until it is given up. -/
theorem Fate.aside (h : Fate chunkSize slot conduit begun first server later during middle) :
    ∀ entry ∈ during, entry.deed ≠ .advance slot →
      doneFor conduit entry.events = [] ∨ GivenUp slot conduit entry middle := by
  cases h with
  | underway _ _ pursued | finished _ _ pursued =>
    exact fun entry hmem hdeed => .inl (pursued.aside entry hmem hdeed)
  | givenUp _ _ pursued up =>
    intro entry hmem hdeed
    rcases List.mem_cons.1 hmem with rfl | hmem
    · exact .inr up
    · exact .inl (pursued.aside entry hmem hdeed)

theorem Fate.exists_course
    (h : Fate chunkSize slot conduit begun first server later during middle) :
    ∃ transmission, Course chunkSize conduit.control begun (stepsOf conduit slot first during)
      transmission := by
  cases h with
  | underway _ _ pursued | finished _ _ pursued => exact ⟨_, pursued.course⟩
  | @givenUp _ _ entry _ _ _ _ pursued up =>
    obtain ⟨before, deed, events⟩ := entry
    rw [stepsOf_of_ne up.deed_ne]
    exact ⟨_, pursued.course⟩

/-- What comes of a transfer, by what holds of every part of it that is pursued. -/
theorem Fate.turnout {going : Transmission → List (List Event) → Prop}
    {concluded : List Event → Nat → Text → Prop}
    (h : Fate chunkSize slot conduit begun first server later during middle)
    (hgoing : ∀ {recent past : List Entry} {session : Session}, later ++ during = recent ++ past →
      Pursued chunkSize slot conduit begun first past session → session.isTransferring = true →
      going session.transmission (stepsOf conduit slot first past))
    (hconcluded : ∀ {recent past : List Entry} {session : Session},
      later ++ during = recent ++ past → Pursued chunkSize slot conduit begun first past session →
      session.transmission = .idle → ∃ moved code text,
        (stepsOf conduit slot first past).flatten = moved ++ conduit.ending code text ∧
        concluded moved code text) :
    Turnout slot conduit first going concluded server later during middle := by
  cases h with
  | underway get active pursued =>
    exact .underway get (flatten_stepsOf pursued.aside).symm (hgoing rfl pursued active)
  | finished get idle pursued =>
    have hidle := Transmission.eq_idle_of_not_isActive idle
    obtain ⟨moved, code, text, hdone, hwhy⟩ := hconcluded rfl pursued hidle
    exact .ended get hidle ((flatten_stepsOf pursued.aside).symm.trans hdone) hwhy
  | givenUp get active pursued up =>
    exact .givenUp get (flatten_stepsOf pursued.aside).symm
      (hgoing (List.append_cons ..) pursued active) up

end Histories

end Ftp
