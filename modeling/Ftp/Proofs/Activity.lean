import Ftp.Proofs.Admission
import Ftp.Proofs.Conduit

/-!
# When a session was last active

A session notes the time when it is opened, with each step of its transfer, and with each line of
its client that is heeded: one that names no command, or a command that runs. A line that is
refused or not heard leaves the note as it is, and so does whatever is done for other sessions.

* `exec_rouses`: what a deed makes of the note;
* `Reachable.lastActive?_eq`: the note of a session, read off from the past of the server;
* `lastActive?_filter`: the deeds that do not concern the session do not matter for it.
-/

namespace Ftp

open Program

/-- The time that is read from the clock. -/
def Event.time? : Event → Option Int
  | ⟨.unixTime, now⟩ => some now
  | _ => none

/-- The latest time that is read from the clock in some events. -/
def latestTime? (events : List Event) : Option Int :=
  (events.filterMap Event.time?).getLast?

/-- The next line of the session names no command, so that the client is told so, or it names one
that may run. -/
def Session.heeds (setting : Setting) (session : Session) : Bool :=
  match session.input.nextLine? with
  | none => false
  | some (raw, input) =>
    match Command.find? (Command.upperVerb raw) setting.config.extensions with
    | none => true
    | some command => Dispatch.verdict setting { session with input } command = .run

/-- The session of the slot is active in the entry: it is opened, its transfer takes a step, or its
next line is heeded. -/
def Entry.rouses (slot : Nat) (entry : Entry) : Bool :=
  match entry.before.sessions.get? slot with
  | none => entry.deed = .accept
  | some session =>
    entry.deed = .advance slot || entry.deed = .serve slot && session.heeds entry.before.setting

/-- The entry is about the session of the slot, or the session may be opened in it. -/
def Entry.concerns (slot : Nat) (entry : Entry) : Bool :=
  entry.deed.slot? = some slot ||
    entry.deed = .accept && (entry.before.sessions.get? slot).isNone

/-- The time that is read in the latest entry in which the session of the slot is active. -/
def lastActive? (slot : Nat) (history : List Entry) : Option Int :=
  (history.find? (Entry.rouses slot)).bind fun entry => latestTime? entry.events

section Times

variable {events : List Event} {now : Int}

theorem time?_eq_none {event : Event} (h : event.request ≠ .unixTime) : event.time? = none := by
  obtain ⟨request, answer⟩ := event
  cases request with
  | unixTime => exact absurd rfl h
  | _ => rfl

@[simp] theorem latestTime?_concat (events : List Event) (now : Int) :
    latestTime? (events ++ [⟨.unixTime, now⟩]) = some now := by
  simp [latestTime?, Event.time?]

theorem latestTime?_cons (h : ∀ event ∈ events, event.request ≠ .unixTime) (now : Int) :
    latestTime? (⟨.unixTime, now⟩ :: events) = some now := by
  have hnone : events.filterMap Event.time? = [] :=
    List.filterMap_eq_nil_iff.2 fun event hmem => time?_eq_none (h event hmem)
  simp [latestTime?, Event.time?, hnone]

theorem mem_of_latestTime? (h : latestTime? events = some now) :
    ∃ event ∈ events, event.time? = some now :=
  List.mem_filterMap.1 (List.mem_of_getLast? h)

/-- A transfer does not look at the clock again in a step. -/
theorem StepRun.request_ne {chunkSize : Nat} {control : Socket}
    {transmission transmission' : Transmission}
    (h : StepRun chunkSize control transmission events transmission') :
    ∀ event ∈ events, event.request ≠ .unixTime := by
  intro event hmem heq
  obtain ⟨conduit, rfl, hthrough⟩ : ∃ conduit : Conduit, conduit.control = control ∧
      transmission.Through conduit := by
    cases transmission with
    | idle => cases h
    | retrieving file socket => exact ⟨⟨control, socket, file⟩, rfl, rfl, rfl⟩
    | storing file socket => exact ⟨⟨control, socket, file⟩, rfl, rfl, rfl⟩
  have hserves := h.serves hthrough event hmem
  rw [heq] at hserves
  cases hserves

end Times

/-! ## Deeds -/

section Deeds

variable {setting : Setting} {session session' : Session} {events : List Event}
  {server server' : Server} {deed : Deed} {slot : Nat}

theorem exec_step_time {outcome : StepOutcome}
    (run : Exec (Transfer.step setting session) events (outcome, session')) :
    latestTime? events = some session'.lastCommand := by
  cases htransferring : session.isTransferring with
  | true =>
    obtain ⟨now, moved, transmission, rfl, hstep, rfl, -⟩ := exec_step htransferring run
    exact latestTime?_cons hstep.request_ne now
  | false =>
    obtain ⟨now, rfl, rfl⟩ := exec_step_idle htransferring run
    exact latestTime?_concat [] now

theorem exec_processInput_time {status : Status}
    (run : Exec (Dispatch.processInput setting session) events (status, session')) :
    if session.heeds setting then latestTime? events = some session'.lastCommand
    else session'.lastCommand = session.lastCommand := by
  unfold Session.heeds
  cases exec_processInput run with
  | overlong next | nothing next => simp [next]
  | line next hline =>
    simp only [next]
    cases exec_dispatch hline with
    | unknown find now => simpa [find] using latestTime?_concat [_] now
    | notLoggedIn find verdict | denied find verdict | ignored find verdict =>
      simp [find, verdict]
    | run find verdict _ now => simp [find, verdict]

/-- A session that lives through a deed notes the time if the deed rouses it, and only then. -/
theorem exec_rouses (placed : server.sessions.Placed)
    (get : server.sessions.get? slot = some session)
    (run : Exec (server.perform deed) events server')
    (get' : server'.sessions.get? slot = some session') :
    if Entry.rouses slot ⟨server, deed, events⟩ then latestTime? events = some session'.lastCommand
    else session'.lastCommand = session.lastCommand := by
  simp only [Entry.rouses, get]
  by_cases hslot : deed.slot? = some slot
  · cases deed with
    | start | register | poll | accept | readClock | unlisten => cases hslot
    | advance =>
      cases hslot
      obtain ⟨outcome, stepped, hstep, hget⟩ := exec_advance placed get run
      obtain rfl : session' = stepped := Option.some.inj (get'.symm.trans hget)
      simpa using exec_step_time hstep
    | receive =>
      cases hslot
      obtain ⟨alive, received, hreceive, hget⟩ := exec_receive placed get run
      obtain rfl : session' = received := Option.some.inj (get'.symm.trans hget)
      obtain ⟨input, heq⟩ := (returns_receive server.setting session).of_exec hreceive
      simp [show session' = { session with input } from heq]
    | serve =>
      cases hslot
      obtain ⟨status, served, hserve, hget⟩ := exec_serve placed get run
      obtain rfl : session' = served := Option.some.inj (get'.symm.trans hget)
      simpa using exec_processInput_time hserve
    | close =>
      cases hslot
      rw [get?_of_close (.inl rfl) run] at get'
      cases get'
    | expire =>
      cases hslot
      rw [get?_of_close (.inr rfl) run] at get'
      cases get'
  · have hkept := ((returns_perform placed deed).of_exec run).get?_of_foreign get hslot
    obtain rfl : session' = session := Option.some.inj (get'.symm.trans hkept)
    have hadvance : deed ≠ .advance slot := by rintro rfl; exact hslot rfl
    have hserve : deed ≠ .serve slot := by rintro rfl; exact hslot rfl
    simp [hadvance, hserve]

end Deeds

/-! ## Over a history -/

section Histories

variable {history recent : List Entry} {server : Server} {slot : Nat} {session : Session}

theorem lastActive?_cons (entry : Entry) (history : List Entry) :
    lastActive? slot (entry :: history) =
      if entry.rouses slot then latestTime? entry.events else lastActive? slot history := by
  cases hrouses : entry.rouses slot <;> simp [lastActive?, hrouses]

/-- A session has noted when it was active for the last time. -/
theorem Reachable.lastActive?_eq (h : Reachable history server)
    (get : server.sessions.get? slot = some session) :
    lastActive? slot history = some session.lastCommand := by
  refine h.session_induction
    (P := fun history _ session => lastActive? slot history = some session.lastCommand) ?_ ?_ get
  · intro older entry server session hdeed hfree run get _
    have hrouses : entry.rouses slot = true := by simp [Entry.rouses, hfree, hdeed]
    rw [hdeed] at run
    obtain ⟨listener, hevents⟩ := exec_accept_admitted run hfree get
    rw [lastActive?_cons, if_pos hrouses, hevents]
    rfl
  · intro older entry server before after hreachable ih hbefore run hafter _
    have htime := exec_rouses hreachable.placed hbefore run hafter
    rw [lastActive?_cons]
    split
    · rename_i hrouses
      rwa [if_pos (by exact hrouses)] at htime
    · rename_i hrouses
      rw [if_neg (by exact hrouses)] at htime
      rw [ih, htime]

theorem Entry.concerns_of_rouses {entry : Entry} (h : entry.rouses slot = true) :
    entry.concerns slot = true := by
  unfold rouses at h
  unfold concerns
  cases hget : entry.before.sessions.get? slot with
  | none => simp_all
  | some session =>
    simp only [hget, Bool.or_eq_true, Bool.and_eq_true, decide_eq_true_eq] at h
    rcases h with hdeed | ⟨hdeed, -⟩ <;> simp [hdeed, Deed.slot?]

/-- What is done for other sessions does not count. -/
theorem lastActive?_filter (slot : Nat) (history : List Entry) :
    lastActive? slot (history.filter (Entry.concerns slot)) = lastActive? slot history := by
  have hboth : (fun entry => decide (entry.concerns slot = true ∧ entry.rouses slot = true)) =
      Entry.rouses slot := by
    funext entry
    cases hrouses : entry.rouses slot with
    | false => simp
    | true => simp [Entry.concerns_of_rouses hrouses]
  rw [lastActive?, List.find?_filter, hboth, lastActive?]

/-- A session that has been active in these entries has noted a time that was read in them. -/
theorem exists_of_roused {past : List Entry}
    (hactive : lastActive? slot (recent ++ past) = some session.lastCommand)
    (roused : ∃ entry ∈ recent, entry.rouses slot = true) :
    ∃ event ∈ eventsOf recent, event.time? = some session.lastCommand := by
  obtain ⟨entry, hfind⟩ : ∃ entry, recent.find? (Entry.rouses slot) = some entry :=
    Option.isSome_iff_exists.1 (List.find?_isSome.2 roused)
  rw [lastActive?, List.find?_append, hfind, Option.some_or, Option.bind_some] at hactive
  obtain ⟨event, hmem, htime⟩ := mem_of_latestTime? hactive
  refine ⟨event, ?_, htime⟩
  exact List.mem_flatMap.2 ⟨entry, List.mem_reverse.2 (List.mem_of_find?_eq_some hfind), hmem⟩

end Histories

end Ftp
