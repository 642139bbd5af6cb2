import Mathlib.Data.List.Basic
import Ftp.Proofs.Provenance
import Ftp.Proofs.Transcript

/-!
# How a transfer begins

A file is opened for a line only once there is a data connection and the transfer has been
announced, and the first step of the transfer follows at once.

* `opens_retr`, `opens_stor`: the two commands that open a file;
* `opens_dispatch`, `opens_processInput`: a line, and the next line of the input;
* `exists_opening`: whenever a file has been opened, a transfer of a session has begun.
-/

namespace Ftp

open Program

/-- The file that an event hands out, with its path and how it has been opened. -/
def Event.opened? : Event → Option (Text × OpenMode × File)
  | ⟨.openFile path mode, .ok file⟩ => some (path, mode, file)
  | _ => none

/-- The request opens a file. -/
def Request.isOpening : Request → Bool
  | .openFile _ _ => true
  | _ => false

theorem Request.isOpening_of_not_isGuarded {r : Request} (h : r.isGuarded = false) :
    r.isOpening = false := by
  cases r <;> first | rfl | cases h

theorem opened?_eq_none {event : Event} (h : event.request.isOpening = false) :
    event.opened? = none := by
  obtain ⟨request, answer⟩ := event
  cases request <;> first | rfl | cases h

theorem eq_of_opened? {event : Event} {path : Text} {mode : OpenMode} {file : File}
    (h : event.opened? = some (path, mode, file)) : event = ⟨.openFile path mode, .ok file⟩ := by
  obtain ⟨request, answer⟩ := event
  cases request with
  | openFile =>
    cases answer with
    | error => cases h
    | ok => cases h; rfl
  | _ => cases h

theorem eq_take_append_cons_drop {α : Type} {list : List α} {k : Nat} {value : α}
    (h : list[k]? = some value) : list = list.take k ++ value :: list.drop (k + 1) := by
  obtain ⟨hlt, rfl⟩ := List.getElem?_eq_some_iff.1 h
  rw [List.getElem_cons_drop, List.take_append_drop]

/-- The deeds around one in which a file is opened, and the events around that. -/
theorem exists_opened {history : List Entry} {k j : Nat} {path : Text} {mode : OpenMode}
    {file : File}
    (h : (history[k]?.bind fun entry => entry.events[j]?.bind Event.opened?) =
      some (path, mode, file)) :
    ∃ entry, history[k]? = some entry ∧
      history = history.take k ++ entry :: history.drop (k + 1) ∧
      entry.events =
        entry.events.take j ++ ⟨.openFile path mode, .ok file⟩ :: entry.events.drop (j + 1) := by
  obtain ⟨entry, hentry, hopened⟩ := Option.bind_eq_some_iff.1 h
  obtain ⟨event, hevent, hopened⟩ := Option.bind_eq_some_iff.1 hopened
  refine ⟨entry, hentry, eq_take_append_cons_drop hentry, ?_⟩
  rw [← eq_of_opened? hopened]
  exact eq_take_append_cons_drop hevent

/-- An event that is not in the first part of some events stands in the rest. -/
theorem exists_of_notMem_left {first rest before after : List Event} {event : Event}
    (h : before ++ event :: after = first ++ rest) (hmem : event ∉ first) :
    ∃ middle, before = first ++ middle ∧ rest = middle ++ event :: after := by
  rcases List.append_eq_append_iff.1 h with ⟨middle, hfirst, hrest⟩ | ⟨middle, hbefore, hrest⟩
  · cases middle with
    | nil =>
      rw [List.append_nil] at hfirst
      exact ⟨[], by rw [List.append_nil, hfirst], hrest.symm⟩
    | cons other middle =>
      rw [List.cons_append, List.cons.injEq] at hrest
      rw [hfirst, hrest.1] at hmem
      simp at hmem
  · exact ⟨middle, hbefore, hrest⟩

theorem exists_of_notMem_right {first rest before after : List Event} {event : Event}
    (h : before ++ event :: after = first ++ rest) (hmem : event ∉ rest) :
    ∃ middle, after = middle ++ rest ∧ first = before ++ event :: middle := by
  rcases List.append_eq_append_iff.1 h with ⟨middle, hfirst, hrest⟩ | ⟨middle, hbefore, hrest⟩
  · cases middle with
    | nil => simp [show rest = event :: after by simpa using hrest.symm] at hmem
    | cons other middle =>
      rw [List.cons_append, List.cons.injEq] at hrest
      exact ⟨middle, hrest.2, by rw [hfirst, hrest.1]⟩
  · simp [hrest] at hmem

namespace Program

variable {α β : Type}

/-- In a run each request is one that the program may ask. -/
theorem AsksOnly.of_exec {allows : Request → Prop} {program : Program α}
    (h : program.AsksOnly (fun _ => True) allows) {events : List Event} {value : α}
    (run : Exec program events value) : ∀ event ∈ events, allows event.request := by
  induction run with
  | done value => exact fun event hmem => by cases hmem
  | ask run ih =>
    intro event hmem
    rcases List.mem_cons.1 hmem with rfl | hmem
    · exact h.1
    · exact ih (h.2 _ (namesIn_true _ _)) event hmem

/-- The program opens no file. -/
def OpensNothing (program : Program α) : Prop :=
  program.AsksOnly (fun _ => True) fun r => r.isOpening = false

/-- Wherever a file is opened in a run, what comes before it and after it is as required. -/
def Opens (program : Program α) (post : List Event → Event → List Event → α → Prop) : Prop :=
  ∀ before event after value, Exec program (before ++ event :: after) value →
    event.opened?.isSome = true → post before event after value

theorem opensNothing_done (value : α) : (Program.done value).OpensNothing :=
  trivial

theorem opensNothing_request {r : Request} (h : r.isOpening = false) : (request r).OpensNothing :=
  asksOnly_request h

theorem OpensNothing.bind {program : Program α} {next : α → Program β} (h : program.OpensNothing)
    (hnext : ∀ value, (next value).OpensNothing) : (program >>= next).OpensNothing :=
  AsksOnly.bind h hnext

theorem OpensNothing.opens {program : Program α} (h : program.OpensNothing)
    (post : List Event → Event → List Event → α → Prop) : program.Opens post := by
  intro before event after value run hopened
  have hnone := opened?_eq_none (AsksOnly.of_exec h run event (by simp))
  rw [hnone] at hopened
  cases hopened

theorem Opens.bind {program : Program α} {next : α → Program β}
    {post : List Event → Event → List Event → β → Prop} (h : program.OpensNothing)
    (hnext : ∀ events value, Exec program events value → (next value).Opens
      fun before event after result => post (events ++ before) event after result) :
    (program >>= next).Opens post := by
  intro before event after result run hopened
  obtain ⟨first, value, rest, hevents, hfirst, hrest⟩ := Exec.bind_iff.1 run
  obtain ⟨middle, rfl, rfl⟩ := exists_of_notMem_left hevents fun hmem => by
    rw [opened?_eq_none (AsksOnly.of_exec h hfirst event hmem)] at hopened
    cases hopened
  exact hnext first value hfirst middle event after result hrest hopened

theorem Opens.bind_left {program : Program α} {next : α → Program β}
    {post : List Event → Event → List Event → α → Prop}
    {post' : List Event → Event → List Event → β → Prop} (h : program.Opens post)
    (hnext : ∀ value, (next value).OpensNothing)
    (hpost : ∀ before event after value rest result, post before event after value →
      Exec (next value) rest result → post' before event (after ++ rest) result) :
    (program >>= next).Opens post' := by
  intro before event after result run hopened
  obtain ⟨first, value, rest, hevents, hfirst, hrest⟩ := Exec.bind_iff.1 run
  obtain ⟨middle, rfl, rfl⟩ := exists_of_notMem_right hevents fun hmem => by
    rw [opened?_eq_none (AsksOnly.of_exec (hnext value) hrest event hmem)] at hopened
    cases hopened
  exact hpost _ _ _ _ _ _ (h before event middle value hfirst hopened) hrest

end Program

/-! ## Transfers -/

/-- The connection that an event makes. -/
def Event.connection? : Event → Option Socket
  | ⟨.accept _ _, .ok (socket, _)⟩ => some socket
  | ⟨.connect _ _, .ok socket⟩ => some socket
  | _ => none

/-- The connections that are made. -/
def connectionsIn (events : List Event) : List Socket :=
  events.filterMap Event.connection?

@[simp] theorem connectionsIn_append (events more : List Event) :
    connectionsIn (events ++ more) = connectionsIn events ++ connectionsIn more :=
  List.filterMap_append

/-- A transfer begins, once so much has been asked and answered, and its first step is taken. -/
structure Opening (chunkSize : Nat) (control socket : Socket) (begun : Transmission)
    (before after : List Event) (session' : Session) : Prop where
  connected : connectionsIn before = [socket]
  announced : ∃ text, said control 150 text ∈ before
  step : ∃ now moved later, after = ⟨.unixTime, now⟩ :: moved ++ later ∧
    (∀ event ∈ later, event.request = .unixTime) ∧
    StepRun chunkSize control begun moved session'.transmission

/-- What comes before may have begun earlier. -/
theorem Opening.prepend {chunkSize : Nat} {control socket : Socket} {begun : Transmission}
    {before after : List Event} {session' : Session}
    (h : Opening chunkSize control socket begun before after session') {first : List Event}
    (hfirst : connectionsIn first = []) :
    Opening chunkSize control socket begun (first ++ before) after session' where
  connected := by rw [connectionsIn_append, hfirst, h.connected, List.nil_append]
  announced := h.announced.imp fun _ hmem => List.mem_append_right first hmem
  step := h.step

/-- The clock may be looked at once more in the end. -/
theorem Opening.append {chunkSize : Nat} {control socket : Socket} {begun : Transmission}
    {before after rest : List Event} {session' session'' : Session}
    (h : Opening chunkSize control socket begun before after session')
    (hrest : ∀ event ∈ rest, event.request = .unixTime)
    (hsame : session''.transmission = session'.transmission) :
    Opening chunkSize control socket begun before (after ++ rest) session'' where
  connected := h.connected
  announced := h.announced
  step := by
    obtain ⟨now, moved, later, rfl, hlater, hstep⟩ := h.step
    refine ⟨now, moved, later ++ rest, by rw [List.append_assoc], fun event hmem => ?_,
      hsame ▸ hstep⟩
    exact (List.mem_append.1 hmem).elim (hlater event) (hrest event)

/-- The transfer that is of a file, and for a download as long as the platform has said. -/
inductive Begins (path : Text) (file : File) (socket : Socket) (before : List Event) :
    OpenMode → Transmission → Prop
  | download {info : FileInfo} (stat : (⟨.stat path, .ok info⟩ : Event) ∈ before) :
    Begins path file socket before .read (.retrieving file socket info.size)
  | upload : Begins path file socket before .write (.storing file socket)

/-- The event opens a file for a transfer. -/
def OpensFor (chunkSize : Nat) (control : Socket) (before : List Event) (event : Event)
    (after : List Event) (session' : Session) : Prop :=
  ∃ path mode file socket begun, event = ⟨.openFile path mode, .ok file⟩ ∧
    Begins path file socket before mode begun ∧
    Opening chunkSize control socket begun before after session'

section Sessions

variable {setting : Setting} {session : Session}

theorem opensNothing_fail (code : Nat) (text : Text) : (session.fail code text).OpensNothing :=
  asksOnly_fail (fun _ => Request.isOpening_of_not_isGuarded) code text

/-- The first step of a transfer follows at once. -/
theorem opens_transferFile (hidle : session.isTransferring = false) (socket : Socket)
    (path : Text) (mode : OpenMode) (refusal : Text) {transmission : File → Transmission}
    (hactive : ∀ file, (transmission file).isActive = true) :
    (Action.transferFile setting session socket path mode refusal transmission).Opens
      fun before event after result => before = [] ∧ ∃ file now moved,
        event = ⟨.openFile path mode, .ok file⟩ ∧ after = ⟨.unixTime, now⟩ :: moved ∧
        StepRun setting.config.chunkSize.toNat session.control (transmission file) moved
          result.2.transmission := by
  intro before event after result run hopened
  simp only [Action.transferFile, request, ask_bind, done_bind, exec_ask_iff] at run
  obtain ⟨answer, rest, hevents, hrest⟩ := run
  have hlater : ∀ {α : Type} {program : Program α} {value : α}, program.OpensNothing →
      Exec program rest value → before = [] ∧ event = ⟨.openFile path mode, answer⟩ ∧
        after = rest := by
    intro α program value hnothing hrun
    have hmem : event ∉ rest := fun hmem => by
      rw [opened?_eq_none (AsksOnly.of_exec hnothing hrun event hmem)] at hopened
      cases hopened
    obtain ⟨middle, rfl, hhead⟩ := exists_of_notMem_right
      (show before ++ event :: after = [⟨.openFile path mode, answer⟩] ++ rest from hevents) hmem
    cases before with
    | nil =>
      rw [List.nil_append, List.cons.injEq] at hhead
      exact ⟨rfl, hhead.1.symm, by rw [← hhead.2, List.nil_append]⟩
    | cons => simp at hhead
  cases answer with
  | error error =>
    have hnothing : (request (.closeSocket socket) >>= fun _ =>
        session.fail 451 refusal).OpensNothing :=
      (opensNothing_request rfl).bind fun _ => opensNothing_fail 451 refusal
    obtain ⟨-, rfl, -⟩ := hlater hnothing hrest
    cases hopened
  | ok file =>
    simp only [Action.transfer, Transfer.start, hidle, Bool.false_eq_true, if_false] at hrest
    obtain ⟨events, ⟨outcome, session'⟩, last, rfl, hstep, hdone⟩ := Exec.bind_iff.1 hrest
    obtain ⟨rfl, rfl⟩ := exec_done_iff.1 hdone
    have hnothing : (Transfer.step setting
        { session with transmission := transmission file }).OpensNothing :=
      asksOnly_step (fun _ => Request.isOpening_of_not_isGuarded) (fun _ _ _ _ _ => rfl)
        fun _ _ _ _ => rfl
    rw [List.append_nil] at hlater
    obtain ⟨rfl, rfl, rfl⟩ := hlater hnothing hstep
    have htransferring : ({ session with transmission := transmission file } :
        Session).isTransferring = true := hactive file
    obtain ⟨now, moved, left, rfl, hmoved, rfl, -⟩ := exec_step htransferring hstep
    exact ⟨rfl, file, now, moved, rfl, rfl, hmoved⟩

/-- The data connection that is passed on is the only one that has been made. -/
theorem EstablishRun.connectionsIn_eq {wait : Nat} {client : IPv4} {target : Target}
    {events : List Event} {socket : Socket}
    (h : EstablishRun wait client target events (.ok socket)) :
    connectionsIn events = [socket] := by
  cases h <;> rfl

theorem opens_withPath {path : Text} {next : Text → Program (Status × Session)}
    {post : List Event → Event → List Event → Status × Session → Prop}
    (hnext : ∀ resolved, (next resolved).Opens post) :
    (setting.withPath session path next).Opens post := by
  unfold Setting.withPath
  split
  · exact hnext _
  · exact (opensNothing_fail _ _).opens post

theorem opensNothing_establish (setting : Setting) (session : Session) :
    (DataChannel.establish setting session).OpensNothing :=
  asksOnly_establish (fun _ => Request.isOpening_of_not_isGuarded) (fun _ _ => rfl) fun _ _ => rfl

/-- Over a data connection a transfer is announced, and then begins with its file. -/
theorem opens_withConnection (hidle : session.isTransferring = false) {path text refusal : Text}
    {mode : OpenMode} {transmission : Socket → File → Transmission}
    (hactive : ∀ socket file, (transmission socket file).isActive = true) :
    (DataChannel.withConnection setting session fun socket =>
      session.say 150 text >>= fun _ =>
        Action.transferFile setting session socket path mode refusal (transmission socket)).Opens
      fun before event after result => ∃ socket file,
        event = ⟨.openFile path mode, .ok file⟩ ∧
        Opening setting.config.chunkSize.toNat session.control socket (transmission socket file)
          before after result.2 := by
  refine Opens.bind (opensNothing_establish setting session) fun events established hrun => ?_
  cases established with
  | error error => exact (opensNothing_fail _ _).opens _
  | ok socket =>
    refine Opens.bind (opensNothing_request rfl) fun announcement _ hsaid => ?_
    obtain ⟨rfl, -⟩ := (plays_say session 150 text).eq_of_exec hsaid
    intro before event after result run hopened
    obtain ⟨rfl, file, now, moved, rfl, rfl, hstep⟩ :=
      opens_transferFile hidle socket path mode refusal (hactive socket) before event after result
        run hopened
    refine ⟨socket, file, rfl, ?_, ⟨text, by simp⟩, now, moved, [], by simp, by simp, hstep⟩
    rw [connectionsIn_append, (exec_establish hrun).connectionsIn_eq]
    rfl

theorem opens_retr (hidle : session.isTransferring = false) (name : Text) :
    (Action.retr setting session name).Opens fun before event after result =>
      OpensFor setting.config.chunkSize.toNat session.control before event after result.2 := by
  refine opens_withPath fun path => ?_
  refine Opens.bind (opensNothing_request rfl) fun asked info hasked => ?_
  have hfail : ∀ post, (session.fail 550 "Failed to open file.").Opens post :=
    (opensNothing_fail _ _).opens
  cases info with
  | error error => exact hfail _
  | ok info =>
    simp only []
    split
    · refine Opens.bind (opensNothing_request rfl) fun allowed may hallowed => ?_
      cases may with
      | false => exact hfail _
      | true =>
        intro before event after result run hopened
        obtain ⟨socket, file, hevent, hopening⟩ :=
          opens_withConnection hidle (fun _ _ => rfl) before event after result run hopened
        have hstat : (⟨.stat path, .ok info⟩ : Event) ∈ asked ++ (allowed ++ before) := by
          rw [exec_request hasked]
          exact List.mem_cons_self
        have hnone : connectionsIn allowed = [] := by
          rw [exec_request hallowed]
          rfl
        have hnone' : connectionsIn asked = [] := by
          rw [exec_request hasked]
          rfl
        exact ⟨path, .read, file, socket, _, hevent, .download hstat,
          (hopening.prepend hnone).prepend hnone'⟩
    · exact hfail _

theorem opens_stor (hidle : session.isTransferring = false) (name : Text) :
    (Action.stor setting session name).Opens fun before event after result =>
      OpensFor setting.config.chunkSize.toNat session.control before event after result.2 := by
  refine opens_withPath fun path => ?_
  intro before event after result run hopened
  obtain ⟨socket, file, hevent, hopening⟩ :=
    opens_withConnection hidle (fun _ _ => rfl) before event after result run hopened
  exact ⟨path, .write, file, socket, _, hevent, .upload, hopening⟩

/-- A command that is no transfer neither opens a file nor moves bytes of one. -/
theorem asksOnly_run_plain (argument : Text) {command : Command}
    (hmode : command.transferMode? = none) :
    (command.run setting session argument).AsksOnly (fun _ => True) fun r =>
      r.isOpening = false ∧ r.access? = none := by
  refine (asksOnly_run setting session _ argument command).mono fun r hasks => ?_
  have hkind := hasks.kind
  cases r with
  | openFile path mode =>
    cases mode with
    | read | write =>
      rw [List.mem_singleton.1 (of_decide_eq_true hkind)] at hmode
      cases hmode
  | readFile | writeFile =>
    rw [List.mem_singleton.1 (of_decide_eq_true hkind)] at hmode
    cases hmode
  | _ => exact ⟨rfl, rfl⟩

/-- A command opens a file only for a transfer. -/
theorem opens_run (argument : Text) {command : Command}
    (hidle : command.duringTransfer = false → session.isTransferring = false) :
    (command.run setting session argument).Opens fun before event after result =>
      OpensFor setting.config.chunkSize.toNat session.control before event after result.2 := by
  cases hmode : command.transferMode? with
  | none =>
    exact OpensNothing.opens ((asksOnly_run_plain argument hmode).mono fun _ h => h.1) _
  | some mode =>
    cases command with
    | retr => exact opens_retr (hidle rfl) argument
    | stor => exact opens_stor (hidle rfl) argument
    | _ => cases hmode

/-- A line opens a file only for a transfer. -/
theorem opens_dispatch (setting : Setting) (session : Session) (raw : Text) :
    (Dispatch.dispatch setting session raw).Opens fun before event after result =>
      OpensFor setting.config.chunkSize.toNat session.control before event after result.2 := by
  have hsay : ∀ code text, (session.say code text).OpensNothing :=
    fun _ _ => opensNothing_request rfl
  have htouch : ∀ (status : Status) session, (Dispatch.touch session >>= fun session =>
      Program.done (status, session)).OpensNothing := fun _ _ =>
    OpensNothing.bind (OpensNothing.bind (opensNothing_request rfl) fun _ => opensNothing_done _)
      fun _ => opensNothing_done _
  unfold Dispatch.dispatch
  cases hfind : Command.find? (Command.upperVerb raw) setting.config.extensions with
  | none =>
    simp only [hfind]
    exact ((hsay _ _).bind fun _ => htouch _ _).opens _
  | some command =>
    simp only [hfind]
    cases hverdict : Dispatch.verdict setting session command with
    | notLoggedIn | denied => exact ((hsay _ _).bind fun _ => opensNothing_done _).opens _
    | ignored => exact (opensNothing_done _).opens _
    | run =>
      refine (opens_run _ (isTransferring_of_verdict hverdict)).bind_left
        (fun value => htouch value.1 value.2) ?_
      rintro before event after value rest result ⟨path, mode, file, socket, begun, hevent, hbegins,
        hopening⟩ htouched
      obtain ⟨now, rfl, rfl⟩ := exec_touch_done htouched
      exact ⟨path, mode, file, socket, begun, hevent, hbegins, hopening.append (by simp) rfl⟩

/-- Serving the next line opens a file only for a transfer. -/
theorem opens_processInput (setting : Setting) (session : Session) :
    (Dispatch.processInput setting session).Opens fun before event after result =>
      OpensFor setting.config.chunkSize.toNat session.control before event after result.2 := by
  unfold Dispatch.processInput
  cases session.input.nextLine? with
  | some next => exact opens_dispatch setting { session with input := next.2 } next.1
  | none =>
    simp only []
    split
    · exact ((opensNothing_request rfl).bind fun _ => opensNothing_done _).opens _
    · exact (opensNothing_done _).opens _

end Sessions

/-! ## Deeds -/

/-- Whenever a file has been opened, a transfer of a session has begun. -/
theorem exists_opening {server server' : Server} {deed : Deed} {before after : List Event}
    {path : Text} {mode : OpenMode} {file : File} (placed : server.sessions.Placed)
    (run : Exec (server.perform deed) (before ++ ⟨.openFile path mode, .ok file⟩ :: after)
      server') :
    ∃ slot session socket begun session', deed = .serve slot ∧
      server.sessions.get? slot = some session ∧ server'.sessions.get? slot = some session' ∧
      session.SameClient session' ∧
      Begins path file socket before mode begun ∧
      Opening server.config.chunkSize.toNat session.control socket begun before after session' := by
  by_cases hserve : ∃ slot, deed = .serve slot
  · obtain ⟨slot, rfl⟩ := hserve
    cases hget : server.sessions.get? slot with
    | none =>
      simpa using (eq_of_perform_vacant rfl hget run).1
    | some session =>
      obtain ⟨status, session', hprocess, hget'⟩ := exec_serve placed hget run
      obtain ⟨_, _, _, socket, begun, hevent, hbegins, hopening⟩ :=
        opens_processInput server.setting session _ _ _ _ hprocess rfl
      cases hevent
      exact ⟨slot, session, socket, begun, session', rfl, hget, hget',
        ((returns_processInput _ _).of_exec hprocess).sameClient, hbegins, hopening⟩
  · have hasks := (asksOnly_perform deed fun slot h => hserve ⟨slot, h⟩).of_exec run
      ⟨.openFile path mode, .ok file⟩ (by simp)
    cases hasks.1

end Ftp
