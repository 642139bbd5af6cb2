import Ftp.Program

/-!
# Programs under a monitor

A monitor follows the requests of a program and their answers. `Program.Safe` says that on every
run, as long as the platform answers as the monitor expects, the program requests only what the
monitor allows, and that a run that ends gives a value as required. `Program.Returns` is the case of
a monitor that allows everything and expects nothing.

* `safe_bind`: sequencing;
* `Safe.mono`, `Safe.and_returns`: consequence, and what holds of the value on any platform;
* `Safe.of_allows`: a monitor that allows more;
* `Exec.bind_iff`, `exec_run`: complete runs with their events;
* `Safe.post_of_exec`, `Safe.allows_of_exec`: what a safe program does in a run;
* `safe_record`: the monitor that only keeps the events sees exactly the runs.
-/

namespace Ftp

/-- A request with the answer that it got. -/
structure Event where
  request : Request
  answer : request.Answer

/-- What a program is held to, and what it may rely on. `World` is what the monitor knows of the
requests and the answers so far. -/
structure Monitor (World : Type) where
  allows : World → Request → Prop
  expects : World → (r : Request) → r.Answer → Prop
  next : World → (r : Request) → r.Answer → World

/-- Everything is allowed and nothing expected. -/
def Monitor.free : Monitor Unit where
  allows _ _ := True
  expects _ _ _ := True
  next _ _ _ := ()

/-- A monitor that judges each request by itself. -/
def Monitor.stateless (allows : Request → Prop) (expects : (r : Request) → r.Answer → Prop) :
    Monitor Unit where
  allows _ := allows
  expects _ := expects
  next _ _ _ := ()

/-- Keeps the events, and judges each request by those before it. -/
def Monitor.auditing (allows : List Event → Request → Prop) : Monitor (List Event) where
  allows := allows
  expects _ _ _ := True
  next events r answer := events ++ [⟨r, answer⟩]

/-- Only keeps the events. -/
def Monitor.record : Monitor (List Event) :=
  .auditing fun _ _ => True

/-- The world after some events. -/
def Monitor.after {World : Type} (m : Monitor World) : World → List Event → World
  | w, [] => w
  | w, event :: events => m.after (m.next w event.request event.answer) events

/-- Each answer is as the monitor expects it. -/
def Monitor.Follows {World : Type} (m : Monitor World) : World → List Event → Prop
  | _, [] => True
  | w, event :: events =>
    m.expects w event.request event.answer ∧ m.Follows (m.next w event.request event.answer) events

instance Monitor.decidableFollows {World : Type} (m : Monitor World)
    [∀ w r answer, Decidable (m.expects w r answer)] :
    ∀ w events, Decidable (m.Follows w events)
  | _, [] => inferInstanceAs (Decidable True)
  | w, event :: events =>
    have := m.decidableFollows (m.next w event.request event.answer) events
    inferInstanceAs (Decidable (m.expects w event.request event.answer ∧
      m.Follows (m.next w event.request event.answer) events))

theorem Monitor.after_append {World : Type} (m : Monitor World) (w : World)
    (events more : List Event) :
    m.after w (events ++ more) = m.after (m.after w events) more := by
  induction events generalizing w with
  | nil => rfl
  | cons event events ih => exact ih _

theorem Monitor.follows_append {World : Type} {m : Monitor World} {w : World}
    {events more : List Event} :
    m.Follows w (events ++ more) ↔ m.Follows w events ∧ m.Follows (m.after w events) more := by
  induction events generalizing w with
  | nil => exact (iff_of_eq (true_and _)).symm
  | cons event events ih => exact (and_congr_right fun _ => ih).trans and_assoc.symm

/-- A monitor follows those events that are of any concern to it. -/
theorem Monitor.Follows.filter {World : Type} {m : Monitor World} {concerns : Event → Bool}
    (h : ∀ w event, concerns event = false → m.next w event.request event.answer = w) {w : World}
    {events : List Event} (follows : m.Follows w events) :
    m.Follows w (events.filter concerns) := by
  induction events generalizing w with
  | nil => exact trivial
  | cons event events ih =>
    obtain ⟨hexpects, hrest⟩ := follows
    cases hconcerns : concerns event with
    | true =>
      rw [List.filter_cons_of_pos hconcerns]
      exact ⟨hexpects, ih hrest⟩
    | false =>
      rw [h w event hconcerns] at hrest
      rw [List.filter_cons_of_neg (by rw [hconcerns]; exact Bool.false_ne_true)]
      exact ih hrest

namespace Program

variable {α β World : Type} {m : Monitor World}

attribute [simp] request

/-- From a world on, the program requests only what the monitor allows, and its value and the world
at its end are as required. -/
def Safe (m : Monitor World) : Program α → World → (α → World → Prop) → Prop
  | .done value, w, post => post value w
  | .ask r resume, w, post =>
    m.allows w r ∧ ∀ answer, m.expects w r answer → (resume answer).Safe m (m.next w r answer) post

/-- Whatever the answers, the value of the program is as required. -/
def Returns (program : Program α) (post : α → Prop) : Prop :=
  program.Safe .free () fun value _ => post value

@[simp] theorem safe_done (value : α) (w : World) (post : α → World → Prop) :
    (Program.done value).Safe m w post ↔ post value w := Iff.rfl

@[simp] theorem safe_ask (r : Request) (resume : r.Answer → Program α) (w : World)
    (post : α → World → Prop) :
    (Program.ask r resume).Safe m w post ↔
      m.allows w r ∧ ∀ answer, m.expects w r answer →
        (resume answer).Safe m (m.next w r answer) post := Iff.rfl

@[simp] theorem safe_bind (program : Program α) (next : α → Program β) (w : World)
    (post : β → World → Prop) :
    (program >>= next).Safe m w post ↔
      program.Safe m w fun value w => (next value).Safe m w post := by
  induction program generalizing w with
  | done value => rfl
  | ask r resume ih => simp only [ask_bind, safe_ask, ih]

theorem Safe.mono {program : Program α} {w : World} {post post' : α → World → Prop}
    (h : program.Safe m w post) (hpost : ∀ value w, post value w → post' value w) :
    program.Safe m w post' := by
  induction program generalizing w with
  | done value => exact hpost _ _ h
  | ask r resume ih => exact ⟨h.1, fun answer he => ih answer (h.2 answer he)⟩

@[simp] theorem returns_done (value : α) (post : α → Prop) :
    (Program.done value).Returns post ↔ post value := Iff.rfl

@[simp] theorem returns_ask (r : Request) (resume : r.Answer → Program α) (post : α → Prop) :
    (Program.ask r resume).Returns post ↔ ∀ answer, (resume answer).Returns post := by
  simp [Returns, Monitor.free]

@[simp] theorem returns_bind (program : Program α) (next : α → Program β) (post : β → Prop) :
    (program >>= next).Returns post ↔ program.Returns fun value => (next value).Returns post := by
  simp [Returns]

/-- Whatever the program does, a value as required is no news if every value is. -/
theorem returns_of_forall {post : α → Prop} (h : ∀ value, post value) (program : Program α) :
    program.Returns post := by
  induction program with
  | done value => exact h value
  | ask r resume ih => exact (returns_ask ..).2 ih

theorem Returns.mono {program : Program α} {post post' : α → Prop} (h : program.Returns post)
    (hpost : ∀ value, post value → post' value) : program.Returns post' :=
  Safe.mono h fun value _ => hpost value

/-- What holds of the value on any platform holds of it under a monitor. -/
theorem Safe.and_returns {program : Program α} {w : World} {post : α → World → Prop}
    {post' : α → Prop} (h : program.Safe m w post) (h' : program.Returns post') :
    program.Safe m w fun value w => post value w ∧ post' value := by
  induction program generalizing w with
  | done value => exact ⟨h, h'⟩
  | ask r resume ih =>
    exact ⟨h.1, fun answer he => ih answer (h.2 answer he) ((returns_ask ..).1 h' answer)⟩

/-- A program stays safe for a monitor that allows more. -/
theorem Safe.of_allows {m' : Monitor World} {program : Program α} {w : World}
    {post : α → World → Prop} (h : program.Safe m w post)
    (hallows : ∀ w r, m.allows w r → m'.allows w r)
    (hexpects : ∀ w r answer, m'.expects w r answer → m.expects w r answer)
    (hnext : ∀ w r answer, m'.next w r answer = m.next w r answer) : program.Safe m' w post := by
  induction program generalizing w with
  | done value => exact h
  | ask r resume ih =>
    refine ⟨hallows _ _ h.1, fun answer he => ?_⟩
    rw [hnext]
    exact ih answer (h.2 answer (hexpects _ _ _ he))

/-! ## Runs -/

/-- A complete run of the program: its events in order and its value. -/
inductive Exec : Program α → List Event → α → Prop
  | done (value : α) : Exec (.done value) [] value
  | ask {r : Request} {resume : r.Answer → Program α} {answer : r.Answer} {events : List Event}
    {value : α} : Exec (resume answer) events value →
    Exec (.ask r resume) (⟨r, answer⟩ :: events) value

theorem exec_done_iff {value result : α} {events : List Event} :
    Exec (.done value) events result ↔ events = [] ∧ result = value := by
  constructor
  · intro h; cases h; exact ⟨rfl, rfl⟩
  · rintro ⟨rfl, rfl⟩; exact .done result

theorem exec_ask_iff {r : Request} {resume : r.Answer → Program α} {events : List Event}
    {value : α} :
    Exec (.ask r resume) events value ↔
      ∃ answer rest, events = ⟨r, answer⟩ :: rest ∧ Exec (resume answer) rest value := by
  constructor
  · intro h; cases h with | ask h => exact ⟨_, _, rfl, h⟩
  · rintro ⟨answer, rest, rfl, h⟩; exact .ask h

theorem Exec.bind_iff {program : Program α} {next : α → Program β} {events : List Event}
    {result : β} :
    Exec (program >>= next) events result ↔
      ∃ before value after, events = before ++ after ∧ Exec program before value ∧
        Exec (next value) after result := by
  induction program generalizing events with
  | done value =>
    simp only [done_bind, exec_done_iff]
    constructor
    · exact fun h => ⟨[], value, events, rfl, ⟨rfl, rfl⟩, h⟩
    · rintro ⟨_, _, after, rfl, ⟨rfl, rfl⟩, h⟩
      exact h
  | ask r resume ih =>
    simp only [ask_bind, exec_ask_iff, ih]
    constructor
    · rintro ⟨answer, _, rfl, before, value, after, rfl, h, h'⟩
      exact ⟨_, value, after, rfl, ⟨answer, before, rfl, h⟩, h'⟩
    · rintro ⟨_, value, after, rfl, ⟨answer, before, rfl, h⟩, h'⟩
      exact ⟨answer, _, rfl, before, value, after, rfl, h, h'⟩

/-- Running a program on a platform is a run. -/
theorem exec_run {State : Type} (answer : (r : Request) → State → r.Answer × State)
    (program : Program α) (state : State) :
    ∃ events, Exec program events (program.run answer state).1 := by
  induction program generalizing state with
  | done value => exact ⟨[], .done value⟩
  | ask r resume ih =>
    obtain ⟨events, h⟩ := ih (answer r state).1 (answer r state).2
    exact ⟨_, .ask h⟩

/-- Runs the program on a platform and keeps the events. -/
def trace {State : Type} (answer : (r : Request) → State → r.Answer × State) :
    Program α → State → List Event × α × State
  | .done value, state => ([], value, state)
  | .ask r resume, state =>
    let (reply, state) := answer r state
    let (events, result) := (resume reply).trace answer state
    (⟨r, reply⟩ :: events, result)

theorem exec_trace {State : Type} (answer : (r : Request) → State → r.Answer × State)
    (program : Program α) (state : State) :
    Exec program (program.trace answer state).1 (program.trace answer state).2.1 := by
  induction program generalizing state with
  | done value => exact .done value
  | ask r resume ih => exact .ask (ih _ _)

/-- After events as it expects them, a monitor of a safe program finds value and world as
required. -/
theorem Safe.post_of_exec {program : Program α} {w : World} {post : α → World → Prop}
    (h : program.Safe m w post) {events : List Event} {value : α}
    (he : Exec program events value) (hf : m.Follows w events) : post value (m.after w events) := by
  induction he generalizing w with
  | done value => exact h
  | ask he ih => exact ih (h.2 _ hf.1) hf.2

/-- In a run of a safe program each request is allowed, as long as the answers before it are
expected. -/
theorem Safe.allows_of_exec {program : Program α} {w : World} {post : α → World → Prop}
    (h : program.Safe m w post) {before after : List Event} {event : Event} {value : α}
    (he : Exec program (before ++ event :: after) value) (hf : m.Follows w before) :
    m.allows (m.after w before) event.request := by
  induction before generalizing program w with
  | nil =>
    cases he
    exact h.1
  | cons first before ih =>
    cases he with
    | ask he => exact ih (h.2 _ hf.1) he hf.2

theorem Returns.of_exec {program : Program α} {post : α → Prop} (h : program.Returns post)
    {events : List Event} {value : α} (he : Exec program events value) : post value := by
  refine Safe.post_of_exec h he ?_
  clear h he
  induction events with
  | nil => trivial
  | cons event events ih => exact ⟨trivial, ih⟩

/-- The recording monitor of a program holds the events of its run in the end. -/
theorem safe_record (program : Program α) (w : List Event) :
    program.Safe .record w fun value w' =>
      ∃ events, w' = w ++ events ∧ Exec program events value := by
  induction program generalizing w with
  | done value => exact ⟨[], (List.append_nil w).symm, .done value⟩
  | ask r resume ih =>
    refine ⟨trivial, fun answer _ => (ih answer _).mono ?_⟩
    rintro value _ ⟨events, rfl, he⟩
    exact ⟨⟨r, answer⟩ :: events, by simp [Monitor.record, Monitor.auditing], .ask he⟩

theorem follows_auditing (allows : List Event → Request → Prop) (w events : List Event) :
    (Monitor.auditing allows).Follows w events := by
  induction events generalizing w with
  | nil => trivial
  | cons event events ih => exact ⟨trivial, ih _⟩

theorem after_auditing (allows : List Event → Request → Prop) (w events : List Event) :
    (Monitor.auditing allows).after w events = w ++ events := by
  induction events generalizing w with
  | nil => exact (List.append_nil w).symm
  | cons event events ih => rw [Monitor.after, ih, Monitor.auditing, List.append_cons]

end Program

end Ftp
