import Ftp.Proofs.Opening
import Ftp.Proofs.Pass
import Ftp.Proofs.Upload

/-!
# What a pass does for a session

In a pass a session is served one line, and the loop takes one step of its transfer. If that step is
the last one, the line may begin another transfer, and then the first step of that follows at once.
So a session may be moved two chunks in a pass, where the next pass would have been early enough for
the second of them.

* `StepRun.movedIn_le`: a step moves one chunk at most;
* `Program.Paced`: how many files a program opens, and how much it moves of them;
* `paced_processInput`: a line opens one file at most, and moves one chunk of it;
* `workload_of_reachable`: what a pass does for each session;
* `backToBack_movedIn`: a pass that moves two chunks for a session.
-/

namespace Ftp

open Program

/-! ## Bytes of files -/

/-- How many bytes of a file the event moves. -/
def Event.moved : Event → Nat
  | ⟨.readFile _ _, .ok chunk⟩ => chunk.bytes.length
  | ⟨.writeFile _ bytes, _⟩ => bytes.length
  | _ => 0

/-- How many bytes of files are moved. -/
def movedIn (events : List Event) : Nat :=
  (events.map Event.moved).sum

/-- How many files are opened. -/
def openedIn (events : List Event) : Nat :=
  events.countP fun event => event.opened?.isSome

section Events

variable {events : List Event} {chunkSize : Nat} {control socket : Socket} {file : File}

@[simp] theorem movedIn_nil : movedIn [] = 0 := rfl

@[simp] theorem movedIn_cons (event : Event) (events : List Event) :
    movedIn (event :: events) = event.moved + movedIn events := rfl

@[simp] theorem movedIn_append (events more : List Event) :
    movedIn (events ++ more) = movedIn events + movedIn more := by
  simp [movedIn]

theorem openedIn_cons (event : Event) (events : List Event) :
    openedIn (event :: events) =
      openedIn events + if event.opened?.isSome then 1 else 0 :=
  List.countP_cons

@[simp] theorem openedIn_append (events more : List Event) :
    openedIn (events ++ more) = openedIn events + openedIn more :=
  List.countP_append

theorem moved_eq_zero {event : Event} (h : event.request.access? = none) :
    event.moved = 0 := by
  obtain ⟨request, answer⟩ := event
  cases request <;> first | rfl | cases h

theorem movedIn_eq_zero (h : ∀ event ∈ events, event.request.access? = none) :
    movedIn events = 0 := by
  induction events with
  | nil => rfl
  | cons event events ih =>
    obtain ⟨hevent, hevents⟩ := List.forall_mem_cons.1 h
    rw [movedIn_cons, moved_eq_zero hevent, ih hevents]

theorem openedIn_eq_zero (h : ∀ event ∈ events, event.request.isOpening = false) :
    openedIn events = 0 :=
  List.countP_eq_zero.2 fun event hmem => by simp [opened?_eq_none (h event hmem)]

theorem RetrieveRun.movedIn_le {remaining : Nat} {left : Option Nat}
    (h : RetrieveRun control socket file chunkSize remaining events left) :
    movedIn events ≤ chunkSize := by
  have hchunk : ∀ chunk : Chunk (min chunkSize remaining), chunk.bytes.length ≤ chunkSize :=
    fun chunk => chunk.length_le.trans (Nat.min_le_left _ _)
  cases h with
  | empty | unreadable => exact Nat.zero_le _
  | exhausted | broken | completed | sent => exact hchunk _

theorem StoreRun.movedIn_le {goesOn : Bool}
    (h : StoreRun control socket file chunkSize events goesOn) : movedIn events ≤ chunkSize := by
  have hreceived : ∀ {received : List Event} {attempts : Nat} {bytes : List UInt8}
      {state : Transfer.StreamState},
      ReceiveRun socket attempts chunkSize received bytes state → movedIn received = 0 := by
    intro received attempts bytes state hreceive
    refine movedIn_eq_zero fun event hmem => ?_
    obtain ⟨limit, hrequest⟩ := hreceive.request_eq event hmem
    rw [hrequest]
    rfl
  cases h with
  | failed hreceive =>
    rw [movedIn_append, hreceived hreceive, Nat.zero_add]
    exact hreceive.length_le
  | @stored received bytes state hreceive =>
    have hconclusion : movedIn (conclusion control state) = 0 := by
      cases state <;> rfl
    have hwritten : movedIn (written file bytes) ≤ bytes.length := by
      unfold written
      split
      · exact Nat.zero_le _
      · exact le_rfl
    rw [movedIn_append, movedIn_append, hreceived hreceive, hconclusion, Nat.zero_add]
    exact hwritten.trans hreceive.length_le

/-- A step moves one chunk at most. -/
theorem StepRun.movedIn_le {transmission transmission' : Transmission}
    (h : StepRun chunkSize control transmission events transmission') :
    movedIn events ≤ chunkSize := by
  cases h with
  | retrieved h => exact h.movedIn_le
  | downloaded h =>
    rw [movedIn_append]
    exact h.movedIn_le
  | stored h => exact h.movedIn_le
  | uploaded h =>
    rw [movedIn_append]
    exact h.movedIn_le

end Events

/-! ## Lines -/

namespace Program

variable {α β : Type} {chunkSize limit : Nat}

/-- The program opens so many files at most, and moves one chunk at most of each. -/
def Paced (chunkSize limit : Nat) (program : Program α) : Prop :=
  ∀ events value, Exec program events value →
    openedIn events ≤ limit ∧ movedIn events ≤ chunkSize * openedIn events

theorem Paced.mono {limit' : Nat} {program : Program α} (h : program.Paced chunkSize limit)
    (hle : limit ≤ limit') : program.Paced chunkSize limit' :=
  fun events value run => ⟨(h events value run).1.trans hle, (h events value run).2⟩

theorem Paced.bind {limit' : Nat} {program : Program α} {next : α → Program β}
    (h : program.Paced chunkSize limit) (hnext : ∀ value, (next value).Paced chunkSize limit') :
    (program >>= next).Paced chunkSize (limit + limit') := by
  intro events result run
  obtain ⟨before, value, after, rfl, hbefore, hafter⟩ := Exec.bind_iff.1 run
  obtain ⟨hopened, hmoved⟩ := h before value hbefore
  obtain ⟨hopened', hmoved'⟩ := hnext value after result hafter
  rw [openedIn_append, movedIn_append, Nat.mul_add]
  exact ⟨Nat.add_le_add hopened hopened', Nat.add_le_add hmoved hmoved'⟩

/-- What comes before a program that opens files may ask anything else. -/
theorem Paced.after {program : Program α} {next : α → Program β}
    (h : program.Paced chunkSize 0) (hnext : ∀ value, (next value).Paced chunkSize limit) :
    (program >>= next).Paced chunkSize limit :=
  Nat.zero_add limit ▸ h.bind hnext

theorem Paced.before {program : Program α} {next : α → Program β}
    (h : program.Paced chunkSize limit) (hnext : ∀ value, (next value).Paced chunkSize 0) :
    (program >>= next).Paced chunkSize limit :=
  h.bind hnext

theorem paced_of_asksOnly {program : Program α} (h : program.AsksOnly (fun _ => True) fun r =>
    r.isOpening = false ∧ r.access? = none) : program.Paced chunkSize 0 := by
  intro events value run
  have hasks := h.of_exec run
  rw [openedIn_eq_zero fun event hmem => (hasks event hmem).1,
    movedIn_eq_zero fun event hmem => (hasks event hmem).2]
  exact ⟨le_rfl, Nat.zero_le _⟩

end Program

theorem paced_done {α : Type} (value : α) {chunkSize : Nat} :
    (Program.done value).Paced chunkSize 0 :=
  paced_of_asksOnly ((asksOnly_done value).2 trivial)

theorem Request.plain_of_not_isGuarded {r : Request} (h : r.isGuarded = false) :
    r.isOpening = false ∧ r.access? = none := by
  cases r <;> first | exact ⟨rfl, rfl⟩ | cases h

section Sessions

variable {setting : Setting} {session : Session} {chunkSize limit : Nat}

theorem paced_request {r : Request} (h : r.isOpening = false ∧ r.access? = none) :
    (request r).Paced chunkSize 0 :=
  paced_of_asksOnly (asksOnly_request h)

theorem paced_fail (code : Nat) (text : Text) : (session.fail code text).Paced chunkSize 0 :=
  paced_of_asksOnly (asksOnly_fail (fun _ => Request.plain_of_not_isGuarded) code text)

theorem paced_touch (status : Status) (session : Session) :
    (Dispatch.touch session >>= fun session => Program.done (status, session)).Paced chunkSize 0 :=
  paced_of_asksOnly (AsksOnly.bind (AsksOnly.bind (asksOnly_request ⟨rfl, rfl⟩) fun _ => trivial)
    fun _ => trivial)

theorem paced_withPath {path : Text} {next : Text → Program (Status × Session)}
    (hnext : ∀ resolved, (next resolved).Paced chunkSize limit) :
    (setting.withPath session path next).Paced chunkSize limit := by
  unfold Setting.withPath
  split
  · exact hnext _
  · exact (paced_fail _ _).mono (Nat.zero_le _)

/-- The first step of a transfer moves one chunk of the file that has just been opened. -/
theorem paced_transferFile (hidle : session.isTransferring = false) (socket : Socket)
    (path : Text) (mode : OpenMode) (refusal : Text) {transmission : File → Transmission}
    (hactive : ∀ file, (transmission file).isActive = true) :
    (Action.transferFile setting session socket path mode refusal transmission).Paced
      setting.config.chunkSize.toNat 1 := by
  intro events result run
  simp only [Action.transferFile, request, ask_bind, done_bind, exec_ask_iff] at run
  obtain ⟨answer, rest, rfl, hrest⟩ := run
  rw [movedIn_cons, openedIn_cons, moved_eq_zero rfl, Nat.zero_add]
  cases answer with
  | error error =>
    have hclosed : (request (.closeSocket socket) >>= fun _ => session.fail 451 refusal).Paced
        setting.config.chunkSize.toNat 0 :=
      (paced_request ⟨rfl, rfl⟩).after fun _ => paced_fail 451 refusal
    obtain ⟨hopened, hmoved⟩ := hclosed rest result hrest
    exact ⟨hopened.trans (Nat.zero_le 1), hmoved⟩
  | ok file =>
    simp only [Action.transfer, Transfer.start, hidle, Bool.false_eq_true, if_false] at hrest
    obtain ⟨stepped, ⟨outcome, session'⟩, last, rfl, hstep, hdone⟩ := Exec.bind_iff.1 hrest
    obtain ⟨rfl, rfl⟩ := exec_done_iff.1 hdone
    have hnothing : (Transfer.step setting
        { session with transmission := transmission file }).OpensNothing :=
      asksOnly_step (fun _ => Request.isOpening_of_not_isGuarded) (fun _ _ _ _ _ => rfl)
        fun _ _ _ _ => rfl
    have hopened := openedIn_eq_zero (hnothing.of_exec hstep)
    have htransferring : ({ session with transmission := transmission file } :
        Session).isTransferring = true := hactive file
    obtain ⟨now, moved, left, rfl, hmoved, -, -⟩ := exec_step htransferring hstep
    have hle : movedIn (⟨.unixTime, now⟩ :: moved) ≤ setting.config.chunkSize.toNat := by
      rw [movedIn_cons, moved_eq_zero rfl, Nat.zero_add]
      exact hmoved.movedIn_le
    rw [List.append_nil, hopened]
    exact ⟨le_rfl, by simpa [Event.opened?] using hle⟩

theorem paced_withConnection (hidle : session.isTransferring = false) {path text refusal : Text}
    {mode : OpenMode} {transmission : Socket → File → Transmission}
    (hactive : ∀ socket file, (transmission socket file).isActive = true) :
    (DataChannel.withConnection setting session fun socket =>
      session.say 150 text >>= fun _ =>
        Action.transferFile setting session socket path mode refusal (transmission socket)).Paced
      setting.config.chunkSize.toNat 1 := by
  have hestablish : (DataChannel.establish setting session).Paced
      setting.config.chunkSize.toNat 0 :=
    paced_of_asksOnly (asksOnly_establish (fun _ => Request.plain_of_not_isGuarded)
      (fun _ _ => ⟨rfl, rfl⟩) fun _ _ => ⟨rfl, rfl⟩)
  refine hestablish.after fun established => ?_
  cases established with
  | error error => exact (paced_fail _ _).mono (Nat.zero_le 1)
  | ok socket =>
    exact (paced_request ⟨rfl, rfl⟩).after fun _ =>
      paced_transferFile hidle socket path mode refusal (hactive socket)

theorem Transfers.paced {argument path : Text} {command : Command}
    {program : Program (Status × Session)}
    (h : Transfers setting session argument path command program)
    (hidle : session.isTransferring = false) :
    program.Paced setting.config.chunkSize.toNat 1 := by
  induction h with
  | fails => exact (paced_fail _ _).mono (Nat.zero_le 1)
  | asks inquires _ ih => exact (paced_request (by cases inquires <;> exact ⟨rfl, rfl⟩)).after ih
  | begins carries => exact paced_withConnection hidle carries.isActive

/-- A command opens one file at most, and moves one chunk of it. -/
theorem paced_run (argument : Text) {command : Command}
    (hidle : command.duringTransfer = false → session.isTransferring = false) :
    (command.run setting session argument).Paced setting.config.chunkSize.toNat 1 := by
  cases hmode : command.transferMode? with
  | none =>
    exact (paced_of_asksOnly (asksOnly_run_plain argument hmode)).mono (Nat.zero_le 1)
  | some mode =>
    obtain ⟨next, hrun, htransfers⟩ := Command.transfers setting session argument hmode
    rw [hrun]
    have hidle := hidle (duringTransfer_of_transferMode hmode)
    exact paced_withPath fun path => (htransfers path).paced hidle

/-- A line opens one file at most, and moves one chunk of it. -/
theorem paced_dispatch (setting : Setting) (session : Session) (raw : Text) :
    (Dispatch.dispatch setting session raw).Paced setting.config.chunkSize.toNat 1 := by
  have hsay : ∀ code text, (session.say code text).Paced setting.config.chunkSize.toNat 0 :=
    fun _ _ => paced_request ⟨rfl, rfl⟩
  unfold Dispatch.dispatch
  cases hfind : Command.find? (Command.upperVerb raw) setting.config.extensions with
  | none =>
    simp only [hfind]
    exact ((hsay _ _).after fun _ => paced_touch _ _).mono (Nat.zero_le 1)
  | some command =>
    simp only [hfind]
    cases hverdict : Dispatch.verdict setting session command with
    | notLoggedIn | denied => exact ((hsay _ _).after fun _ => paced_done _).mono (Nat.zero_le 1)
    | ignored => exact (paced_done _).mono (Nat.zero_le 1)
    | run =>
      exact (paced_run _ (isTransferring_of_verdict hverdict)).before
        fun result => paced_touch result.1 result.2

theorem paced_processInput (setting : Setting) (session : Session) :
    (Dispatch.processInput setting session).Paced setting.config.chunkSize.toNat 1 := by
  unfold Dispatch.processInput
  cases session.input.nextLine? with
  | some next => exact paced_dispatch setting { session with input := next.2 } next.1
  | none =>
    simp only []
    split
    · refine Paced.mono ?_ (Nat.zero_le 1)
      exact (paced_request ⟨rfl, rfl⟩).after fun _ => paced_done _
    · exact (paced_done _).mono (Nat.zero_le 1)

end Sessions

/-! ## Deeds -/

/-- How many bytes of files are moved for the session of the slot. -/
def movedFor (slot : Nat) (recent : List Entry) : Nat :=
  (recent.map fun entry => if entry.deed.slot? = some slot then movedIn entry.events else 0).sum

/-- How many files the lines of the session of the slot open. With each of them a transfer begins,
and takes its first step. -/
def begunFor (slot : Nat) (recent : List Entry) : Nat :=
  (recent.map fun entry => if entry.deed = .serve slot then openedIn entry.events else 0).sum

section Deeds

variable {server server' : Server} {history recent : List Entry} {deed : Deed}
  {events : List Event} {slot : Nat} {session : Session}

@[simp] theorem movedFor_nil (slot : Nat) : movedFor slot [] = 0 := rfl

@[simp] theorem movedFor_cons (slot : Nat) (entry : Entry) (recent : List Entry) :
    movedFor slot (entry :: recent) =
      (if entry.deed.slot? = some slot then movedIn entry.events else 0) + movedFor slot recent :=
  rfl

@[simp] theorem begunFor_nil (slot : Nat) : begunFor slot [] = 0 := rfl

@[simp] theorem begunFor_cons (slot : Nat) (entry : Entry) (recent : List Entry) :
    begunFor slot (entry :: recent) =
      (if entry.deed = .serve slot then openedIn entry.events else 0) + begunFor slot recent :=
  rfl

/-- In a step of the loop one chunk is moved at most. -/
theorem movedIn_advance_le (placed : server.sessions.Placed)
    (run : Exec (server.perform (.advance slot)) events server') :
    movedIn events ≤ server.config.chunkSize.toNat := by
  cases hget : server.sessions.get? slot with
  | none =>
    rw [(eq_of_perform_vacant rfl hget run).1]
    exact Nat.zero_le _
  | some session =>
    obtain ⟨outcome, session', hstep, -⟩ := exec_advance placed hget run
    cases htransferring : session.isTransferring with
    | true =>
      obtain ⟨now, moved, left, rfl, hmoved, -, -⟩ := exec_step htransferring hstep
      rw [movedIn_cons, moved_eq_zero rfl, Nat.zero_add]
      exact hmoved.movedIn_le
    | false =>
      obtain ⟨now, rfl, -⟩ := exec_step_idle htransferring hstep
      exact Nat.zero_le _

/-- In the turn of a session one file is opened at most, and one chunk of it moved. -/
theorem movedIn_serve_le (placed : server.sessions.Placed)
    (run : Exec (server.perform (.serve slot)) events server') :
    openedIn events ≤ 1 ∧ movedIn events ≤ server.config.chunkSize.toNat * openedIn events := by
  cases hget : server.sessions.get? slot with
  | none =>
    rw [(eq_of_perform_vacant rfl hget run).1]
    exact ⟨Nat.zero_le _, Nat.zero_le _⟩
  | some session =>
    obtain ⟨status, session', hserve, -⟩ := exec_serve placed hget run
    exact paced_processInput server.setting session events _ hserve

/-- Nothing else moves bytes of files. -/
theorem movedIn_eq_zero_of_deed (hserve : ∀ slot, deed ≠ .serve slot)
    (hadvance : ∀ slot, deed ≠ .advance slot) (run : Exec (server.perform deed) events server') :
    movedIn events = 0 := by
  refine movedIn_eq_zero fun event hmem => ?_
  have hasks := ((asksOnly_perform deed hserve).of_exec run event hmem).2
  rw [Option.eq_none_iff_forall_ne_some]
  intro access haccess
  obtain ⟨slot, -, hdeed, -⟩ := hasks access haccess
  exact hadvance slot hdeed

/-- What is moved for a session is one chunk at most for each step of the loop, and one for each
transfer that begins. -/
theorem Leads.movedFor_le (h : Leads server recent server') (placed : server.sessions.Placed)
    (slot : Nat) :
    movedFor slot recent ≤
      server.config.chunkSize.toNat * (tally (.advance slot) recent + begunFor slot recent) := by
  induction h with
  | nil => exact Nat.zero_le _
  | @cons recent middle server' deed events leads run ih =>
    have hplaced := leads.placed placed
    rw [← leads.config_eq placed] at ih ⊢
    simp only [movedFor_cons, begunFor_cons, tally_cons]
    have hentry : (if deed.slot? = some slot then movedIn events else 0) ≤
        middle.config.chunkSize.toNat * ((if deed = .advance slot then 1 else 0) +
          if deed = .serve slot then openedIn events else 0) := by
      by_cases hslot : deed.slot? = some slot
      · cases deed with
        | start | register | poll | accept | readClock | unlisten => cases hslot
        | advance =>
          cases hslot
          simpa [Deed.slot?] using movedIn_advance_le hplaced run
        | serve =>
          cases hslot
          simpa [Deed.slot?] using (movedIn_serve_le hplaced run).2
        | receive | close | expire =>
          rw [movedIn_eq_zero_of_deed (by simp) (by simp) run]
          simp
      · rw [if_neg hslot]
        exact Nat.zero_le _
    calc _ ≤ middle.config.chunkSize.toNat * _ + middle.config.chunkSize.toNat * _ :=
          Nat.add_le_add hentry ih
      _ = middle.config.chunkSize.toNat * _ := by
          rw [← Nat.mul_add]
          congr 1
          omega

/-- With each line one transfer begins at most. -/
theorem Leads.begunFor_le (h : Leads server recent server') (placed : server.sessions.Placed)
    (slot : Nat) : begunFor slot recent ≤ tally (.serve slot) recent := by
  induction h with
  | nil => exact Nat.zero_le _
  | @cons recent middle server' deed events leads run ih =>
    rw [begunFor_cons, tally_cons, Nat.add_comm]
    refine Nat.add_le_add ih ?_
    split
    · rename_i hdeed
      simp only at hdeed
      rw [hdeed] at run
      exact (movedIn_serve_le (leads.placed placed) run).1
    · exact Nat.zero_le _

theorem LineRun.isOpening {setting : Setting} {raw : Text} {result : Status × Session}
    (h : LineRun setting session raw events result) :
    ∀ event ∈ events, event.request.isOpening = false := by
  cases h with
  | abor =>
    have hreleased : ∀ event ∈ session.transmission.released,
        event.request.isOpening = false := by
      cases session.transmission <;> simp [Transmission.released, Request.isOpening]
    exact List.forall_mem_append.2 ⟨hreleased, by simp [Request.isOpening]⟩
  | _ => simp [Request.isOpening]

/-- No file is opened in the turn of a session whose transfer is going on. -/
theorem isTransferring_of_opened {setting : Setting} {result : Status × Session}
    (run : Exec (Dispatch.processInput setting session) events result)
    (hopened : 0 < openedIn events) : session.isTransferring = false := by
  by_contra htransferring
  rw [Bool.not_eq_false] at htransferring
  have hnone : ∀ event ∈ events, event.request.isOpening = false := by
    rcases exec_processInput_transferring htransferring run with
      ⟨input, raw, hline⟩ | ⟨-, rfl | rfl⟩
    · exact hline.isOpening
    · simp
    · simp [Request.isOpening]
  rw [openedIn_eq_zero hnone] at hopened
  exact Nat.lt_irrefl 0 hopened

end Deeds

/-! ## Passes -/

/-- What a pass of a server does for the session of a slot. -/
structure Load (server : Server) (slot : Nat) (recent : List Entry) : Prop where
  /-- It is served one line at most. -/
  lines_le : tally (.serve slot) recent ≤ 1
  /-- The loop takes one step of its transfer at most. -/
  steps_le : tally (.advance slot) recent ≤ 1
  /-- It takes none if no transfer is going on as the pass begins. -/
  steps_idle : (∀ session, server.sessions.get? slot = some session →
    session.isTransferring = false) → tally (.advance slot) recent = 0
  /-- One transfer begins at most, and takes its first step. -/
  begun_le : begunFor slot recent ≤ 1
  /-- It begins only where none is going on any more. -/
  begun_idle : ∀ entry ∈ recent, entry.deed = .serve slot → 0 < openedIn entry.events →
    ∀ session, entry.before.sessions.get? slot = some session → session.isTransferring = false
  /-- Each of these steps moves one chunk at most. -/
  moved_le : movedFor slot recent ≤
    server.config.chunkSize.toNat * (tally (.advance slot) recent + begunFor slot recent)

section Passes

variable {server : Server} {history recent : List Entry} {events : List Event} {slot : Nat}

theorem Load.moved_le_two (h : Load server slot recent) :
    movedFor slot recent ≤ 2 * server.config.chunkSize.toNat := by
  refine h.moved_le.trans ?_
  rw [Nat.mul_comm]
  exact Nat.mul_le_mul_right _ (Nat.add_le_add h.steps_le h.begun_le)

/-- A session that begins no transfer while another one takes its last step is moved one chunk. -/
theorem Load.moved_le_one (h : Load server slot recent)
    (hone : (∀ session, server.sessions.get? slot = some session →
      session.isTransferring = false) ∨ begunFor slot recent = 0) :
    movedFor slot recent ≤ server.config.chunkSize.toNat := by
  refine h.moved_le.trans ?_
  rcases hone with hidle | hnone
  · rw [h.steps_idle hidle, Nat.zero_add]
    exact (Nat.mul_le_mul_left _ h.begun_le).trans_eq (Nat.mul_one _)
  · rw [hnone]
    exact (Nat.mul_le_mul_left _ h.steps_le).trans_eq (Nat.mul_one _)

/-- Where nothing is done, nothing is moved. -/
theorem Load.of_nil (server : Server) (slot : Nat) : Load server slot [] where
  lines_le := Nat.zero_le 1
  steps_le := Nat.zero_le 1
  steps_idle _ := rfl
  begun_le := Nat.zero_le 1
  begun_idle _ hmem := by cases hmem
  moved_le := Nat.zero_le _

theorem Pass.load {server' : Server} (h : Pass server recent server')
    (placed : server.sessions.Placed) (slot : Nat) : Load server slot recent where
  lines_le := h.tally_serve slot
  steps_le := (h.tally_advance_le_count slot).trans
    (List.nodup_iff_count_le_one.1 placed.nodup_transferring slot)
  steps_idle hidle := by
    refine Nat.le_zero.1 ((h.tally_advance_le_count slot).trans_eq (List.count_eq_zero.2 ?_))
    intro hmem
    obtain ⟨session, get, htransferring⟩ := placed.mem_transferring.1 hmem
    rw [hidle session get] at htransferring
    cases htransferring
  begun_le := (h.leads.begunFor_le placed slot).trans (h.tally_serve slot)
  begun_idle entry hmem hdeed hopened session get := by
    obtain ⟨newer, older, rfl⟩ := List.append_of_mem hmem
    obtain ⟨hleads, server', run⟩ := h.leads.of_append_cons
    rw [hdeed] at run
    obtain ⟨status, session', hserve, -⟩ := exec_serve (hleads.placed placed) get run
    exact isTransferring_of_opened hserve hopened
  moved_le := h.leads.movedFor_le placed slot

/-- In each pass each session is served one line at most, and moved one chunk at most, unless the
last step of its transfer and the first step of the next one fall into the same pass. -/
theorem workload_of_reachable (h : Reachable history server)
    {result : Except ServerError Unit × Server} (run : Exec server.runOnce events result) :
    ∃ recent, Reachable (recent ++ history) result.2 ∧ eventsOf recent = events ∧
      ∀ slot, Load server slot recent := by
  cases hlistener : server.listener with
  | none =>
    obtain ⟨rfl, rfl⟩ := exec_runOnce_of_none hlistener run
    exact ⟨[], h, rfl, fun slot => .of_nil server slot⟩
  | some listener =>
    obtain ⟨recent, hpass, hevents, -⟩ := exec_runOnce h.placed hlistener run
    exact ⟨recent, h.append hpass.leads, hevents, hpass.load h.placed⟩

/-- A disk with two files of 128 bytes each. -/
def twoFiles : Simulation.Disk :=
  let file : Simulation.Node :=
    { kind := .file, data := List.replicate 128 0, modified := .ofUnix 0 }
  { nodes := [("/a".toList, file), ("/b".toList, file)] }

/-- So many passes of a server whose chunks are 64 bytes long. Its client asks for a file of two
chunks, and for another one right behind it. -/
def backToBack (count : Nat) : List Event × Server × Simulation.World :=
  passes { chunkSize := 64 } { name := "ada", password := [], root := "/", rights := .all } twoFiles
    "USER ada\r\nPASS x\r\nPORT 127,0,0,1,4,1\r\nRETR a\r\nRETR b\r\n".toList false count

/-- The pass after five of them, in which the first download ends. -/
def sixthPass : List Event × (Except ServerError Unit × Server) × Simulation.World :=
  (backToBack 5).2.1.runOnce.trace Simulation.World.answer (backToBack 5).2.2

theorem workload_of_reachable_backToBack :
    Exec (backToBack 5).2.1.runOnce sixthPass.1 sixthPass.2.1 ∧
      ∃ history recent, Reachable history (backToBack 5).2.1 ∧
        Reachable (recent ++ history) sixthPass.2.1.2 ∧ eventsOf recent = sixthPass.1 ∧
        ∀ slot, Load (backToBack 5).2.1 slot recent := by
  have hrun : Exec (backToBack 5).2.1.runOnce sixthPass.1 sixthPass.2.1 := by
    rw [sixthPass]
    exact exec_trace Simulation.World.answer _ _
  obtain ⟨past, hreachable⟩ : ∃ past, Reachable past (backToBack 5).2.1 := by
    rw [backToBack]
    obtain ⟨recent, hsettled, -⟩ := exists_settled_passes ..
    exact ⟨_, hsettled.reachable⟩
  obtain ⟨recent, hrecent⟩ := workload_of_reachable hreachable hrun
  exact ⟨hrun, past, recent, hreachable, hrecent⟩

/-- The only session of the server is moved two chunks in this pass, one of each file. -/
theorem backToBack_movedIn :
    (backToBack 5).2.1.config.chunkSize = 64 ∧ (backToBack 5).2.1.sessions.size = 1 ∧
      (sixthPass.1.map Event.moved).filter (0 < ·) = [64, 64] ∧
      movedIn sixthPass.1 = 128 := by
  decide +kernel

end Passes

end Ftp
