import Ftp.Proofs.Target

/-!
# Failed commands

A command that fails undoes what it has done so far: whatever it has opened is closed again, and the
file system has not been changed. `Program.Backs` says so of the runs of a program that fail, where
some handles are open for the program already, and it is shown from the end of a program to its
beginning.

* `backs_withPath`, `backs_withConnection`, `backs_transferFile`: the ways to fail;
* `backs_run`: a command;
* `failed_of_exec`: a line.
-/

namespace Ftp

open Program

/-! ## What is undone -/

def Event.alters (event : Event) : Bool :=
  event.request.alters event.answer

/-- The last reply is an error, nothing has changed in the file system, and of all that is open only
these handles have been closed in the end. -/
structure Undone (control : Socket) (dropped : Multiset Handle) (events : List Event) : Prop where
  refused : ∃ earlier reply, repliesIn events = earlier ++ [(control, reply)] ∧ 400 ≤ reply.code
  after : ∀ opened, ownership.after opened events = opened - dropped
  unaltered : ∀ event ∈ events, event.alters = false

section Undone

variable {control : Socket} {held dropped : Multiset Handle} {events : List Event}

theorem undone_said {code : Nat} (hcode : 400 ≤ code) (text : Text) :
    Undone control 0 [said control code text] where
  refused := ⟨[], .line code text, rfl, hcode⟩
  after opened := add_zero (opened - 0)
  unaltered event hevent := by rw [List.mem_singleton.1 hevent]; rfl

/-- What has happened before, if all that it has opened is closed in the end. -/
theorem Undone.prepend (h : Undone control held events) (before : List Event)
    (hunaltered : ∀ event ∈ before, event.alters = false)
    (hafter : ∀ opened, ownership.after opened before - held = opened - dropped) :
    Undone control dropped (before ++ events) where
  refused := by
    obtain ⟨earlier, reply, hreplies, hcode⟩ := h.refused
    refine ⟨repliesIn before ++ earlier, reply, ?_, hcode⟩
    rw [repliesIn_append, hreplies, List.append_assoc]
  after opened := by rw [Monitor.after_append, h.after, hafter]
  unaltered event hevent :=
    (List.mem_append.1 hevent).elim (hunaltered event) (h.unaltered event)

/-- What happens afterwards, if it is neither a reply nor of any concern. -/
theorem Undone.append_unixTime (h : Undone control dropped events) (now : Int) :
    Undone control dropped (events ++ [⟨.unixTime, now⟩]) where
  refused := by
    obtain ⟨earlier, reply, hreplies, hcode⟩ := h.refused
    exact ⟨earlier, reply, by rw [repliesIn_append, hreplies]; exact List.append_nil _, hcode⟩
  after opened := by
    rw [Monitor.after_append, h.after]
    exact (add_zero _).trans (tsub_zero _)
  unaltered event hevent := by
    rcases List.mem_append.1 hevent with hevent | hevent
    · exact h.unaltered event hevent
    · rw [List.mem_singleton.1 hevent]; rfl

end Undone

namespace Program

variable {control : Socket} {held : Multiset Handle} {left : Session}
  {program : Program (Status × Session)}

/-- A run that fails leaves the session so, and has closed the handles that are held for it. -/
def Backs (program : Program (Status × Session)) (control : Socket) (held : Multiset Handle)
    (left : Session) : Prop :=
  ∀ events text session, Exec program events (.failure text, session) →
    session = left ∧ Undone control held events

/-- No run fails. -/
def Unfailing (program : Program (Status × Session)) : Prop :=
  program.Returns fun result => ∀ text, result.1 ≠ .failure text

theorem Unfailing.backs (h : program.Unfailing) : program.Backs control held left :=
  fun _ text _ run => absurd rfl (h.of_exec run text)

theorem unfailing_bind {α : Type} {program : Program α} {next : α → Program (Status × Session)}
    (h : ∀ value, (next value).Unfailing) : (program >>= next).Unfailing :=
  (returns_bind ..).2 (returns_of_forall h program)

/-- A request that opens and closes nothing. -/
theorem backs_request {r : Request} (hcloses : r.closes = 0) (hgives : ∀ answer, r.gives answer = 0)
    {next : r.Answer → Program (Status × Session)}
    (hnext : ∀ answer, (next answer).Unfailing ∨
      r.alters answer = false ∧ (next answer).Backs control held left) :
    (request r >>= next).Backs control held left := by
  intro events text session run
  obtain ⟨answer, rest, rfl, hrest⟩ := exec_ask_iff.1 run
  obtain hunfailing | ⟨hunaltered, hbacks⟩ := hnext answer
  · exact absurd rfl (hunfailing.of_exec hrest text)
  · obtain ⟨hleft, hundone⟩ := hbacks _ text session hrest
    refine ⟨hleft, hundone.prepend [⟨r, answer⟩] ?_ fun opened => ?_⟩
    · rintro event hevent
      rwa [List.mem_singleton.1 hevent]
    · simp [Monitor.after, ownership, hcloses, hgives]

/-- A question about the file system. -/
theorem backs_asking {r : Request} (hcloses : r.closes = 0) (hgives : ∀ answer, r.gives answer = 0)
    (halters : ∀ answer, r.alters answer = false) {next : r.Answer → Program (Status × Session)}
    (hnext : ∀ answer, (next answer).Backs control held left) :
    (request r >>= next).Backs control held left :=
  backs_request hcloses hgives fun answer => .inr ⟨halters answer, hnext answer⟩

theorem backs_closeSocket (socket : Socket) (h : program.Backs control held left) :
    (request (.closeSocket socket) >>= fun _ => program).Backs control ({.socket socket} + held)
      left := by
  intro events text session run
  obtain ⟨_, rest, rfl, hrest⟩ := exec_ask_iff.1 run
  obtain ⟨hleft, hundone⟩ := h _ text session hrest
  refine ⟨hleft, hundone.prepend [⟨.closeSocket socket, ()⟩] ?_ fun opened => ?_⟩
  · rintro event hevent
    rw [List.mem_singleton.1 hevent]
    rfl
  · simp [Monitor.after, ownership, Request.closes, Request.gives]

end Program

/-! ## Answers -/

section Answers

variable {setting : Setting} {session : Session} {held : Multiset Handle}

theorem backs_fail {session : Session} {code : Nat} (hcode : 400 ≤ code) (text : Text) :
    (session.fail code text).Backs session.control 0 session := by
  intro events _ session' run
  obtain ⟨rfl, hresult⟩ := (plays_fail session code text).eq_of_exec run
  cases hresult
  exact ⟨rfl, undone_said hcode text⟩

theorem unfailing_succeed (session : Session) (code : Nat) (text : Text) :
    (session.succeed code text).Unfailing :=
  (returns_succeed code text).2 nofun

theorem unfailing_done {status : Status} (h : ∀ text, status ≠ .failure text) :
    (Program.done (status, session)).Unfailing :=
  h

theorem backs_withPath {path : Text} {next : Text → Program (Status × Session)}
    (hnext : ∀ resolved, (next resolved).Backs session.control 0 session) :
    (setting.withPath session path next).Backs session.control 0 session := by
  unfold Setting.withPath
  split
  · exact hnext _
  · exact backs_fail (by decide) _

theorem TransferError.replyCode_ge (error : TransferError) : 400 ≤ error.replyCode := by
  cases error <;> simp [TransferError.replyCode]

/-- Only the data connection is open after it has been made, and nothing if it has not. -/
theorem EstablishRun.after {wait : Nat} {client : IPv4} {target : Target} {events : List Event}
    {established : Except TransferError Socket}
    (h : EstablishRun wait client target events established) (opened : Multiset Handle) :
    ownership.after opened events = opened + connectionHandles established := by
  cases h <;>
    simp [Monitor.after, ownership, Request.closes, Request.gives, connectionHandles]

theorem EstablishRun.unaltered {wait : Nat} {client : IPv4} {target : Target} {events : List Event}
    {established : Except TransferError Socket}
    (h : EstablishRun wait client target events established) :
    ∀ event ∈ events, event.alters = false := by
  cases h <;> simp [Event.alters, Request.alters]

theorem backs_withConnection {next : Socket → Program (Status × Session)}
    (hnext : ∀ socket, (next socket).Backs session.control {.socket socket} session) :
    (DataChannel.withConnection setting session next).Backs session.control 0 session := by
  intro events text session' run
  obtain ⟨before, established, rest, rfl, hestablish, hrest⟩ := Exec.bind_iff.1 run
  have hrun := exec_establish hestablish
  obtain ⟨hleft, hundone⟩ : session' = session ∧
      Undone session.control (connectionHandles established) rest := by
    cases established with
    | ok socket => exact hnext socket _ text session' hrest
    | error error => exact backs_fail error.replyCode_ge _ _ text session' hrest
  refine ⟨hleft, hundone.prepend before hrun.unaltered fun opened => ?_⟩
  rw [hrun.after, add_tsub_cancel_right, tsub_zero]

end Answers

/-! ## Commands -/

section Commands

variable {setting : Setting} {session : Session}

theorem unfailing_transfer (hidle : session.isTransferring = false) (transmission : Transmission) :
    (Action.transfer setting session transmission).Unfailing := by
  have hstart : Transfer.start session transmission = .ok { session with transmission } :=
    if_neg (by simp [hidle])
  unfold Action.transfer
  rw [hstart]
  exact unfailing_bind fun _ => unfailing_done (by simp)

/-- A data connection for which there is no file is closed. -/
theorem backs_transferFile (hidle : session.isTransferring = false) (socket : Socket) (path : Text)
    (mode : OpenMode) (refusal : Text) (transmission : File → Transmission) :
    (Action.transferFile setting session socket path mode refusal transmission).Backs
      session.control {.socket socket} session := by
  intro events text session' run
  obtain ⟨answer, rest, rfl, hrest⟩ := exec_ask_iff.1 run
  cases answer with
  | ok file => exact absurd rfl ((unfailing_transfer hidle (transmission file)).of_exec hrest text)
  | error error =>
    obtain ⟨hleft, hundone⟩ :=
      backs_closeSocket socket (backs_fail (by decide) refusal) _ text session' hrest
    refine ⟨hleft, hundone.prepend [⟨.openFile path mode, .error error⟩] ?_ fun _ => ?_⟩
    · intro event hevent
      rw [List.mem_singleton.1 hevent]
      cases mode <;> rfl
    · simp [Monitor.after, ownership, Request.closes, Request.gives]

theorem backs_listing (format : ListFormat) :
    (Action.listing setting session format).Backs session.control 0 session := by
  refine backs_withPath fun path => backs_withConnection fun socket => Unfailing.backs ?_
  exact unfailing_bind fun _ => unfailing_bind fun _ => unfailing_done (by simp)

theorem Transfers.backs {argument path : Text} {command : Command}
    {program : Program (Status × Session)}
    (h : Transfers setting session argument path command program)
    (hidle : session.isTransferring = false) : program.Backs session.control 0 session := by
  induction h with
  | fails _ code_ge => exact backs_fail code_ge _
  | asks inquires _ ih =>
    refine backs_asking ?_ (fun answer => ?_) (fun answer => ?_) ih
    · cases inquires <;> rfl
    · cases inquires <;> rfl
    · cases inquires <;> rfl
  | begins =>
    refine backs_withConnection fun socket => ?_
    refine backs_asking rfl (fun _ => rfl) (fun _ => rfl) fun _ => ?_
    exact backs_transferFile hidle socket path _ _ _

theorem backs_pasv :
    (Action.pasv setting session).Backs session.control (listenerHandles session.passiveListener)
      { session with passiveListener := none, forwardedPort := none } := by
  intro events text session' run
  obtain ⟨before, ⟨opened?, bare⟩, rest, rfl, hopen, hrest⟩ := Exec.bind_iff.1 run
  obtain ⟨opening, rfl, hrun⟩ := exec_openPassive_run hopen
  have hclosed : ∀ opened, ownership.after opened session.passiveClosed =
      opened - listenerHandles session.passiveListener := by
    intro opened
    unfold Session.passiveClosed
    cases session.passiveListener <;> cases session.forwardedPort <;>
      simp [Monitor.after, ownership, Request.closes, Request.gives, listenerHandles]
  have hunaltered : ∀ event ∈ session.passiveClosed, event.alters = false := by
    unfold Session.passiveClosed
    cases session.passiveListener <;> cases session.forwardedPort <;>
      simp [Event.alters, Request.alters]
  cases hrun with
  | opened => cases (plays_succeed ..).eq_of_exec hrest |>.2
  | @outOfRange error =>
    obtain ⟨rfl, hresult⟩ := (plays_fail ..).eq_of_exec hrest
    cases hresult
    refine ⟨rfl, (undone_said error.replyCode_ge _).prepend _ ?_ fun opened => ?_⟩
    · simpa using hunaltered
    · rw [List.append_nil, hclosed, tsub_zero]
  | refused _ cause =>
    obtain ⟨rfl, hresult⟩ := (plays_fail ..).eq_of_exec hrest
    cases hresult
    refine ⟨rfl, (undone_said (TransferError.replyCode_ge _) _).prepend _ ?_ fun opened => ?_⟩
    · intro event hevent
      rcases List.mem_append.1 hevent with hevent | hevent
      · exact hunaltered event hevent
      · rw [List.mem_singleton.1 hevent]; rfl
    · rw [Monitor.after_append, hclosed, tsub_zero]
      exact (add_zero _).trans (tsub_zero _)

/-- What has been closed by then. -/
def Session.forfeited (session : Session) : Option Command → Multiset Handle
  | some .pasv => listenerHandles session.passiveListener
  | _ => 0

theorem Succeeds.unfailing {argument : Text} {command : Command}
    {program : Program (Status × Session)}
    (h : Succeeds setting session argument command program) : program.Unfailing := by
  cases h with
  | intro _ _ _ _ status_ne => exact unfailing_bind fun _ => unfailing_done status_ne

/-- A `PASV` that leaves its session with the listener that it had has found none. -/
theorem Leaves.forfeited_eq {argument : Text} {command : Command}
    (h : Leaves setting session argument command (session.afterFailure command)) :
    session.forfeited command = 0 := by
  cases command with
  | pasv =>
    have hnone : none = session.passiveListener := h.passiveListener_eq
    rw [Session.forfeited, ← hnone]
    rfl
  | _ => rfl

theorem Fails.backs {argument : Text} {command : Command} {program : Program (Status × Session)}
    (h : Fails setting session argument command program) :
    program.Backs session.control (session.forfeited command)
      (session.afterFailure command) := by
  cases h with
  | intro leaves _ code_ge =>
    rw [leaves.forfeited_eq, ← leaves.change.sameClient.control]
    exact backs_fail code_ge _

theorem Form.backs {argument : Text} {command : Command} {program : Program (Status × Session)}
    (h : Form setting session argument command program)
    (hidle : command.duringTransfer = false → session.isTransferring = false) :
    program.Backs session.control (session.forfeited command) (session.afterFailure command) := by
  cases h with
  | succeeds _ succeeds => exact succeeds.unfailing.backs
  | fails _ fails => exact fails.backs
  | consults consults ends =>
    obtain ⟨hforfeited, hsame⟩ :
        session.forfeited command = 0 ∧ session.afterFailure command = session := by
      cases consults <;> exact ⟨rfl, rfl⟩
    rw [hforfeited, hsame]
    refine backs_withPath fun path => backs_request ?_ (fun answer => ?_) fun answer => ?_
    · cases consults <;> rfl
    · cases consults <;> cases answer <;> rfl
    · refine (ends path answer).imp Succeeds.unfailing fun h => ⟨h.1, ?_⟩
      have hbacks := h.2.backs
      rwa [hforfeited, hsame] at hbacks
  | abor => exact (unfailing_bind fun _ => unfailing_succeed _ _ _).backs
  | port => exact (unfailing_bind fun _ => unfailing_succeed _ _ _).backs
  | pasv => exact backs_pasv
  | lists lists => cases lists <;> exact backs_listing _
  | transfers transferMode transfers =>
    obtain ⟨hforfeited, hsame⟩ :
        session.forfeited command = 0 ∧ session.afterFailure command = session := by
      cases command <;> first | exact ⟨rfl, rfl⟩ | cases transferMode
    rw [hforfeited, hsame]
    have hidle := hidle (duringTransfer_of_transferMode transferMode)
    exact backs_withPath fun path => (transfers path).backs hidle

theorem backs_run {command : Command}
    (hidle : command.duringTransfer = false → session.isTransferring = false) (argument : Text) :
    (command.run setting session argument).Backs session.control (session.forfeited command)
      (session.afterFailure command) :=
  (command.form setting session argument).backs hidle

end Commands

/-! ## Lines -/

/-- The command that a line runs, unless it is refused. -/
def Dispatch.runs? (setting : Setting) (session : Session) (raw : Text) : Option Command :=
  (Command.find? (Command.upperVerb raw) setting.config.extensions).filter fun command =>
    verdict setting session command = .run

/-- What is left behind by a line that has failed. -/
structure Failed (setting : Setting) (session : Session) (raw : Text) (events : List Event)
    (session' : Session) : Prop where
  /-- The last that the client hears is an error. -/
  refused : ∃ earlier reply,
    repliesIn events = earlier ++ [(session.control, reply)] ∧ 400 ≤ reply.code
  /-- But for the time of its last command, the session is as it was. -/
  record : ∃ now, session' =
    { session.afterFailure (Dispatch.runs? setting session raw) with lastCommand := now }
  /-- So are the sockets and files that are open. -/
  handles : ∀ opened, ownership.after opened events =
    opened - session.forfeited (Dispatch.runs? setting session raw)
  /-- A file system that is changed only by what succeeds has not been changed. -/
  disk : ∀ {Disk : Type} (after : Disk → Event → Disk),
    (∀ disk event, event.alters = false → after disk event = disk) →
    ∀ disk, events.foldl after disk = disk

theorem foldl_eq_of_unaltered {Disk : Type} {after : Disk → Event → Disk}
    (hafter : ∀ disk event, event.alters = false → after disk event = disk) {events : List Event}
    (h : ∀ event ∈ events, event.alters = false) (disk : Disk) :
    events.foldl after disk = disk := by
  induction events with
  | nil => rfl
  | cons event events ih =>
    rw [List.foldl_cons, hafter disk event (h event List.mem_cons_self)]
    exact ih fun event hevent => h event (List.mem_cons_of_mem _ hevent)

/-- Whatever line it is, and however far the command has got. -/
theorem failed_of_exec {setting : Setting} {session session' : Session} {raw text : Text}
    {events : List Event}
    (run : Exec (Dispatch.dispatch setting session raw) events (.failure text, session')) :
    Failed setting session raw events session' := by
  obtain ⟨left, now, hrecord, rfl, hundone⟩ : ∃ left now,
      left = session.afterFailure (Dispatch.runs? setting session raw) ∧
      session' = { left with lastCommand := now } ∧
      Undone session.control (session.forfeited (Dispatch.runs? setting session raw)) events := by
    unfold Dispatch.runs?
    cases exec_dispatch run with
    | unknown find now =>
      rw [find]
      exact ⟨session, now, rfl, rfl, (undone_said (by decide) _).append_unixTime now⟩
    | notLoggedIn find verdict | denied find verdict =>
      rw [find, Option.filter_some_neg (by simp [verdict])]
      exact ⟨session, _, rfl, rfl, undone_said (by decide) _⟩
    | run find verdict hrun now =>
      rw [find, Option.filter_some_pos (by simp [verdict])]
      obtain ⟨rfl, hundone⟩ := backs_run (isTransferring_of_verdict verdict) _ _ _ _ hrun
      exact ⟨_, now, rfl, rfl, hundone.append_unixTime now⟩
  exact ⟨hundone.refused, ⟨now, by rw [hrecord]⟩, hundone.after,
    fun _ hafter => foldl_eq_of_unaltered hafter hundone.unaltered⟩

/-- The server of a client that has logged in and named a port, where there is no directory for its
account. -/
def visitedBare : Server :=
  visited { name := "ada", password := [], root := "/srv/ftp", rights := .all } {}
    "USER ada\r\nPASS x\r\nPORT 127,0,0,1,19,137\r\n".toList 3

/-- What happens when the client uploads a file there. -/
def uploadToBare (session : Session) : List Event × (Status × Session) × Simulation.World :=
  (Dispatch.dispatch visitedBare.setting session "STOR f".toList).trace Simulation.World.answer
    { clock := 7 }

/-- The upload has been announced when it turns out that the file cannot be created. -/
theorem failed_of_exec_uploadToBare :
    (∃ history, Reachable history visitedBare) ∧
      ∃ session events text session', visitedBare.sessions.get? 0 = some session ∧
        Exec (Dispatch.dispatch visitedBare.setting session "STOR f".toList) events
          (.failure text, session') ∧
        (repliesIn events).map (fun reply => reply.2.code) = [150, 451] ∧
        session'.lastCommand = 7 ∧
        Failed visitedBare.setting session "STOR f".toList events session' := by
  obtain ⟨history, hreachable⟩ : ∃ history, Reachable history visitedBare :=
    exists_reachable_visited _ _ _ _
  obtain ⟨session, hsession⟩ : ∃ session, visitedBare.sessions.get? 0 = some session :=
    Option.isSome_iff_exists.1 (by decide +kernel)
  have hoften : ∀ session ∈ visitedBare.sessions.get? 0,
      (uploadToBare session).2.1.1 = .failure "Cannot create file.".toList ∧
        (repliesIn (uploadToBare session).1).map (fun reply => reply.2.code) = [150, 451] ∧
        (uploadToBare session).2.1.2.lastCommand = 7 := by
    decide +kernel
  obtain ⟨hstatus, hcodes, htime⟩ := hoften session hsession
  have hrun : Exec (Dispatch.dispatch visitedBare.setting session "STOR f".toList)
      (uploadToBare session).1 (.failure "Cannot create file.".toList,
        (uploadToBare session).2.1.2) := by
    rw [← hstatus]
    exact exec_trace Simulation.World.answer _ _
  exact ⟨⟨history, hreachable⟩, session, _, _, _, hsession, hrun, hcodes, htime,
    failed_of_exec hrun⟩

end Ftp
