import Ftp.Proofs.Provenance
import Ftp.Proofs.Transcript

/-!
# Replies

What a session is told, and when. Most lines have one reply. A transfer has two: the command that
begins it announces it, and the reply that concludes it may come many steps later. `Program.Tells`
says so of the runs of a program.

* `tells_step`: a step of a transfer;
* `tells_run`, `tells_dispatch`: a line without a transfer;
* `tells_dispatch_transferring`: a line during a transfer.
-/

namespace Ftp

open Program

/-! ## What a program says -/

/-- The reply in a request, with the connection that it goes to. -/
def Request.reply? : Request → Option (Socket × Reply)
  | .reply control message => some (control, message)
  | _ => none

/-- The replies in some events, with the connections that they go to. -/
def repliesIn (events : List Event) : List (Socket × Reply) :=
  events.filterMap fun event => event.request.reply?

@[simp] theorem repliesIn_nil : repliesIn [] = [] := rfl

@[simp] theorem repliesIn_append (events more : List Event) :
    repliesIn (events ++ more) = repliesIn events ++ repliesIn more :=
  List.filterMap_append

theorem repliesIn_cons (event : Event) (events : List Event) :
    repliesIn (event :: events) = event.request.reply?.toList ++ repliesIn events := by
  unfold repliesIn
  rw [List.filterMap_cons]
  cases event.request.reply? <;> rfl

namespace Reply

/-- A transfer is announced. -/
def announces (reply : Reply) : Bool :=
  reply.code = 150

/-- What was announced has come to its end. -/
def concludes (reply : Reply) : Bool :=
  reply.code ∈ [226, 426, 451]

end Reply

namespace Program

variable {α β : Type} {control : Socket} {post : List Reply → α → Prop}

/-- In every run all replies go to the connection, and they are as required. -/
def Tells (program : Program α) (control : Socket) (post : List Reply → α → Prop) : Prop :=
  ∀ events value, Exec program events value →
    ∃ replies, repliesIn events = replies.map (control, ·) ∧ post replies value

/-- The program says nothing. -/
def Silent (program : Program α) : Prop :=
  ∀ control, program.Tells control fun replies _ => replies = []

theorem tells_done (value : α) (h : post [] value) : (Program.done value).Tells control post := by
  intro events result run
  obtain ⟨rfl, rfl⟩ := exec_done_iff.1 run
  exact ⟨[], rfl, h⟩

theorem Tells.bind {program : Program α} {next : α → Program β} {post' : List Reply → β → Prop}
    (h : program.Tells control post)
    (hnext : ∀ replies value, post replies value →
      (next value).Tells control fun more result => post' (replies ++ more) result) :
    (program >>= next).Tells control post' := by
  intro events result run
  obtain ⟨before, value, after, rfl, hbefore, hafter⟩ := Exec.bind_iff.1 run
  obtain ⟨replies, hreplies, hpost⟩ := h before value hbefore
  obtain ⟨more, hmore, hpost'⟩ := hnext replies value hpost after result hafter
  exact ⟨replies ++ more, by simp [hreplies, hmore], hpost'⟩

theorem Tells.mono {program : Program α} {post' : List Reply → α → Prop}
    (h : program.Tells control post) (hpost : ∀ replies value, post replies value →
      post' replies value) : program.Tells control post' := by
  intro events value run
  obtain ⟨replies, hreplies, hvalue⟩ := h events value run
  exact ⟨replies, hreplies, hpost replies value hvalue⟩

theorem Tells.and_returns {program : Program α} {good : α → Prop}
    (h : program.Tells control post) (hgood : program.Returns good) :
    program.Tells control fun replies value => post replies value ∧ good value := by
  intro events value run
  obtain ⟨replies, hreplies, hvalue⟩ := h events value run
  exact ⟨replies, hreplies, hvalue, hgood.of_exec run⟩

/-- A request that is no reply. -/
theorem tells_request {r : Request} (hr : r.reply? = none) {next : r.Answer → Program α}
    (h : ∀ answer, (next answer).Tells control post) :
    (request r >>= next).Tells control post := by
  intro events value run
  obtain ⟨answer, rest, rfl, hrest⟩ := exec_ask_iff.1 run
  rw [repliesIn_cons, hr]
  exact h answer rest value hrest

theorem Plays.tells {program : Program α} {known : List Event} {value : α}
    (h : program.Plays known value) {replies : List Reply}
    (hreplies : repliesIn known = replies.map (control, ·)) (hpost : post replies value) :
    program.Tells control post := by
  intro events result run
  obtain ⟨rfl, rfl⟩ := h.eq_of_exec run
  exact ⟨replies, hreplies, hpost⟩

theorem silent_done (value : α) : (Program.done value).Silent :=
  fun _ => tells_done value rfl

theorem silent_request {r : Request} (hr : r.reply? = none) {next : r.Answer → Program α}
    (h : ∀ answer, (next answer).Silent) : (request r >>= next).Silent :=
  fun control => tells_request hr fun answer => h answer control

theorem Silent.tells_bind_of {program : Program α} (h : program.Silent) {good : α → Prop}
    (hgood : program.Returns good) {next : α → Program β} {post : List Reply → β → Prop}
    (hnext : ∀ value, good value → (next value).Tells control post) :
    (program >>= next).Tells control post := by
  refine ((h control).and_returns hgood).bind ?_
  rintro _ value ⟨rfl, hvalue⟩
  exact hnext value hvalue

theorem Silent.tells_bind {program : Program α} (h : program.Silent) {next : α → Program β}
    {post : List Reply → β → Prop} (hnext : ∀ value, (next value).Tells control post) :
    (program >>= next).Tells control post :=
  h.tells_bind_of (returns_of_forall (fun _ => trivial) program) fun value _ => hnext value

theorem Silent.bind {program : Program α} (h : program.Silent) {next : α → Program β}
    (hnext : ∀ value, (next value).Silent) : (program >>= next).Silent :=
  fun control => h.tells_bind fun value => hnext value control

end Program

/-! ## Answers -/

section Answers

variable {setting : Setting} {session : Session} {post : List Reply → Status × Session → Prop}

theorem tells_reply {α : Type} {post : List Reply → α → Prop} (reply : Reply)
    {next : Unit → Program α}
    (h : (next ()).Tells session.control fun replies result => post (reply :: replies) result) :
    (session.reply reply >>= next).Tells session.control post := by
  have hreply : (session.reply reply).Tells session.control fun replies _ => replies = [reply] :=
    (plays_reply session reply).tells rfl rfl
  exact hreply.bind fun _ _ hreplies => hreplies ▸ h

theorem tells_say {α : Type} {post : List Reply → α → Prop} (code : Nat) (text : Text)
    {next : Unit → Program α}
    (h : (next ()).Tells session.control fun replies result =>
      post (.line code text :: replies) result) :
    (session.say code text >>= next).Tells session.control post :=
  tells_reply (.line code text) h

theorem tells_fail (code : Nat) (text : Text)
    (h : post [.line code text] (.failure text, session)) :
    (session.fail code text).Tells session.control post :=
  (plays_fail session code text).tells rfl h

theorem tells_succeed (code : Nat) (text : Text)
    (h : post [.line code text] (.success, session)) :
    (session.succeed code text).Tells session.control post :=
  (plays_succeed session code text).tells rfl h

theorem silent_closePassive (session : Session) : (DataChannel.closePassive session).Silent := by
  unfold DataChannel.closePassive
  refine Silent.bind ?_ fun _ => Silent.bind ?_ fun _ => silent_done _
  · unfold DataChannel.closeListener
    split
    · exact silent_request rfl fun _ => silent_done _
    · exact silent_done _
  · unfold DataChannel.dropForward
    split
    · exact silent_request rfl fun _ => silent_done _
    · exact silent_done _

theorem silent_openPassive (setting : Setting) (session : Session) :
    (DataChannel.openPassive setting session).Silent := by
  refine (silent_closePassive session).bind fun session => ?_
  split
  · exact silent_done _
  · refine silent_request rfl fun bound => ?_
    cases bound with
    | error cause => exact silent_done _
    | ok listener =>
      refine silent_request rfl fun outside? => ?_
      cases outside? with
      | some outside => exact silent_request rfl fun _ => silent_done _
      | none =>
        refine silent_request rfl fun address => ?_
        cases address <;> exact silent_done _

theorem silent_establish (setting : Setting) (session : Session) :
    (DataChannel.establish setting session).Silent := by
  unfold DataChannel.establish
  split
  · split
    · refine silent_request rfl fun accepted => ?_
      cases accepted with
      | error cause => exact silent_done _
      | ok client =>
        refine silent_request rfl fun admitted => ?_
        cases admitted with
        | true => exact silent_done _
        | false => exact silent_request rfl fun _ => silent_done _
    · exact silent_done _
  · split
    · exact silent_done _
    · refine silent_request rfl fun connected => ?_
      cases connected <;> exact silent_done _

theorem silent_entryInfo (setting : Setting) (session : Session) (name : Text) :
    (Listing.entryInfo setting session name).Silent := by
  unfold Listing.entryInfo
  split
  · exact silent_done _
  · refine silent_request rfl fun info => ?_
    cases info <;> exact silent_done _

theorem tells_withPath {path : Text} {next : Text → Program (Status × Session)}
    (hnext : ∀ resolved, (next resolved).Tells session.control post)
    (hfail : ∀ text, post [.line 550 text] (.failure text, session)) :
    (setting.withPath session path next).Tells session.control post := by
  unfold Setting.withPath
  split
  · exact hnext _
  · exact tells_fail 550 _ (hfail _)

theorem tells_withConnection {next : Socket → Program (Status × Session)}
    (hnext : ∀ socket, (next socket).Tells session.control post)
    (hfail : ∀ code text, 200 ≤ code → post [.line code text] (.failure text, session)) :
    (DataChannel.withConnection setting session next).Tells session.control post := by
  refine (silent_establish setting session).tells_bind fun established => ?_
  cases established with
  | ok socket => exact hnext socket
  | error error =>
    refine tells_fail error.replyCode _ (hfail _ _ ?_)
    cases error <;> simp [TransferError.replyCode]

end Answers

/-! ## Steps -/

section Lines

variable {setting : Setting} {session : Session} {argument : Text}

theorem ReceiveRun.repliesIn_eq {socket : Socket} {attempts space : Nat} {events : List Event}
    {bytes : List UInt8} {state : Transfer.StreamState}
    (h : ReceiveRun socket attempts space events bytes state) : repliesIn events = [] := by
  induction h with
  | interrupted _ _ _ ih | piece _ _ _ ih => exact ih
  | _ => rfl

/-- Nothing is said of a transfer that goes on, and how it has ended of one that does not. -/
def Concludes (control : Socket) (events : List Event) (goesOn : Bool) : Prop :=
  if goesOn then repliesIn events = []
  else ∃ reply, repliesIn events = [(control, reply)] ∧ reply.concludes = true

theorem RetrieveRun.concludes {control socket : Socket} {file : File} {chunkSize remaining : Nat}
    {events : List Event} {left : Option Nat}
    (h : RetrieveRun control socket file chunkSize remaining events left) :
    Concludes control events left.isSome := by
  cases h with
  | sent => rfl
  | empty => exact ⟨.line 226 _, rfl, rfl⟩
  | unreadable => exact ⟨.line 451 _, rfl, rfl⟩
  | exhausted => exact ⟨.line 451 _, rfl, rfl⟩
  | broken => exact ⟨.line 426 _, rfl, rfl⟩
  | completed => exact ⟨.line 226 _, rfl, rfl⟩

theorem StoreRun.concludes {control socket : Socket} {file : File} {chunkSize : Nat}
    {events : List Event} {goesOn : Bool}
    (h : StoreRun control socket file chunkSize events goesOn) :
    Concludes control events goesOn := by
  cases h with
  | failed hreceive =>
    refine ⟨.line 451 "Error writing file.", ?_, rfl⟩
    rw [repliesIn_append, hreceive.repliesIn_eq]
    rfl
  | @stored received bytes state hreceive =>
    have hwritten : repliesIn (received ++ written file bytes ++ conclusion control state) =
        repliesIn (conclusion control state) := by
      rw [repliesIn_append, repliesIn_append, hreceive.repliesIn_eq]
      unfold written
      split <;> rfl
    unfold Concludes
    rw [hwritten]
    cases state with
    | alive => rfl
    | ended => exact ⟨.line 226 _, rfl, rfl⟩
    | broken => exact ⟨.line 426 _, rfl, rfl⟩

theorem repliesIn_released (transmission : Transmission) :
    repliesIn transmission.released = [] := by
  cases transmission <;> rfl

theorem StepRun.concludes {chunkSize : Nat} {control : Socket}
    {transmission transmission' : Transmission} {events : List Event}
    (h : StepRun chunkSize control transmission events transmission') :
    Concludes control events transmission'.isActive := by
  cases h with
  | retrieved h => exact h.concludes
  | stored h => exact h.concludes
  | downloaded h =>
    have hconcludes := h.concludes
    unfold Concludes at hconcludes ⊢
    rwa [repliesIn_append, repliesIn_released, List.append_nil]
  | uploaded h =>
    have hconcludes := h.concludes
    unfold Concludes at hconcludes ⊢
    rwa [repliesIn_append, repliesIn_released, List.append_nil]

/-- The replies in a step, and the transfer that goes on after it. -/
inductive StepAnswered : StepOutcome → List Reply → Transmission → Prop
  | pending {transmission : Transmission} (hactive : transmission.isActive = true) :
    StepAnswered .pending [] transmission
  | finished {reply : Reply} (h : reply.concludes = true) : StepAnswered .finished [reply] .idle

theorem Transmission.eq_idle_of_not_isActive {transmission : Transmission}
    (h : transmission.isActive = false) : transmission = .idle := by
  cases transmission with
  | idle => rfl
  | _ => cases h

theorem tells_step (hactive : session.isTransferring = true) :
    (Transfer.step setting session).Tells session.control fun replies result =>
      StepAnswered result.1 replies result.2.transmission := by
  rintro events ⟨outcome, session'⟩ run
  obtain ⟨now, moved, transmission, rfl, hstep, rfl, rfl⟩ := exec_step hactive run
  have hconcludes := hstep.concludes
  rw [repliesIn_cons]
  cases htransmission : transmission.isActive with
  | true =>
    rw [htransmission] at hconcludes
    exact ⟨[], hconcludes, by simpa [htransmission] using .pending htransmission⟩
  | false =>
    rw [htransmission] at hconcludes
    obtain ⟨reply, hreplies, hreply⟩ := hconcludes
    obtain rfl := Transmission.eq_idle_of_not_isActive htransmission
    exact ⟨[reply], hreplies, .finished hreply⟩

/-! ## Lines without a transfer -/

/-- The replies to a line, and the transfer that goes on after it. -/
inductive Answered : List Reply → Transmission → Prop
  | final {reply : Reply} (h : 200 ≤ reply.code) : Answered [reply] .idle
  /-- A transfer or a listing has been announced, and has come to its end at once. -/
  | concluded {first last : Reply} (hfirst : first.announces = true)
    (hlast : last.concludes = true) : Answered [first, last] .idle
  | begun {reply : Reply} (h : reply.announces = true) {transmission : Transmission}
    (hactive : transmission.isActive = true) : Answered [reply] transmission

theorem answered_line {code : Nat} (h : 200 ≤ code) (text : Text) :
    Answered [.line code text] .idle :=
  .final h

/-- The first step of a transfer, of which the announcement has been made. -/
theorem tells_transferFile (hidle : session.isTransferring = false) {first : Reply}
    (hfirst : first.announces = true) (socket : Socket) (path : Text) (mode : OpenMode)
    (refusal : Text) {transmission : File → Transmission}
    (hactive : ∀ file, (transmission file).isActive = true) :
    (Action.transferFile setting session socket path mode refusal transmission).Tells
      session.control fun replies result =>
        Answered (first :: replies) result.2.transmission := by
  have hsession := Transmission.eq_idle_of_not_isActive hidle
  refine tells_request rfl fun opened => ?_
  cases opened with
  | error error =>
    refine tells_request rfl fun _ => tells_fail 451 refusal ?_
    rw [hsession]
    exact .concluded hfirst rfl
  | ok file =>
    simp only [Action.transfer, Transfer.start, hidle, Bool.false_eq_true, if_false]
    have hstep := @tells_step setting { session with transmission := transmission file }
      (hactive file)
    refine hstep.bind ?_
    rintro replies ⟨outcome, session'⟩ hanswered
    refine tells_done _ ?_
    rw [List.append_nil]
    generalize session'.transmission = transmission' at hanswered
    cases hanswered with
    | pending hmore => exact .begun hfirst hmore
    | finished hlast => exact .concluded hfirst hlast

theorem tells_sendEntries {first : Reply} (hfirst : first.announces = true)
    (socket : Socket) (format : ListFormat) (now : DateTime) (names : List Text)
    (listed failed : Nat) :
    (Listing.sendEntries setting session socket format now names listed failed).Tells
      session.control fun replies _ => Answered (first :: replies) .idle := by
  have hsay : ∀ code text, (Reply.line code text).concludes = true →
      (session.say code text).Tells session.control fun replies _ =>
        Answered (first :: replies) .idle := fun code text hlast =>
    (plays_say session code text).tells rfl
      (.concluded hfirst hlast)
  induction names generalizing listed failed with
  | nil =>
    unfold Listing.sendEntries
    split <;> exact hsay _ _ rfl
  | cons name names ih =>
    refine (silent_entryInfo setting session name).tells_bind fun info? => ?_
    cases info? with
    | none => exact ih _ _
    | some info =>
      refine tells_request rfl fun sent => ?_
      cases sent with
      | error error => exact hsay _ _ rfl
      | ok => exact ih _ _

theorem tells_listing (format : ListFormat) :
    (Action.listing setting session format).Tells session.control fun replies _ =>
      Answered replies .idle := by
  refine tells_withPath (fun path => tells_withConnection (fun socket => ?_) ?_) ?_
  · have hsend : (Listing.send setting session socket path format).Tells session.control
        fun replies _ => Answered replies .idle := by
      refine tells_request rfl fun names => ?_
      cases names with
      | error error =>
        exact (plays_say session 451 _).tells rfl
          (answered_line (by decide) "Cannot open directory.")
      | ok names =>
        refine tells_say 150 _ (tells_request rfl fun now => ?_)
        exact tells_sendEntries rfl socket format now _ 0 0
    refine hsend.bind fun replies _ hanswered => tells_request rfl fun _ => tells_done _ ?_
    rwa [List.append_nil]
  · exact fun code text hcode => answered_line hcode text
  · exact answered_line (by decide)

theorem Transfers.tells {path : Text} {command : Command} {program : Program (Status × Session)}
    (h : Transfers setting session argument path command program)
    (hidle : session.isTransferring = false) :
    program.Tells session.control fun replies result =>
      Answered replies result.2.transmission := by
  have hsession := Transmission.eq_idle_of_not_isActive hidle
  have hfail : ∀ code text, 200 ≤ code → Answered [.line code text] session.transmission :=
    fun code text hcode => hsession ▸ .final hcode
  induction h with
  | fails _ code_ge => exact tells_fail _ _ (hfail _ _ (Nat.le_trans (by decide) code_ge))
  | asks inquires _ ih => exact tells_request (by cases inquires <;> rfl) ih
  | begins carries =>
    refine tells_withConnection (fun socket => ?_) hfail
    exact tells_say 150 _ (tells_transferFile hidle rfl socket path _ _ (carries.isActive socket))

theorem Succeeds.tells {command : Command} {program : Program (Status × Session)}
    (h : Succeeds setting session argument command program) :
    program.Tells session.control fun replies _ => Answered replies .idle := by
  cases h with
  | intro leaves _ code_ge =>
    rw [← leaves.change.sameClient.control]
    exact tells_reply _ (tells_done _ (.final code_ge))

theorem Fails.tells {command : Command} {program : Program (Status × Session)}
    (h : Fails setting session argument command program) :
    program.Tells session.control fun replies _ => Answered replies .idle := by
  cases h with
  | intro leaves _ code_ge =>
    rw [← leaves.change.sameClient.control]
    exact tells_fail _ _ (answered_line (Nat.le_trans (by decide) code_ge) _)

theorem tells_pasv : (Action.pasv setting session).Tells session.control fun replies _ =>
    Answered replies .idle := by
  refine (silent_openPassive setting session).tells_bind_of (returns_openPassive _ _) ?_
  rintro ⟨opened, session'⟩ h
  cases opened with
  | ok endpoint =>
    obtain ⟨-, listener, forwarded, -, rfl⟩ := h
    exact tells_succeed 227 _ (answered_line (by decide) _)
  | error error =>
    subst h
    refine tells_fail _ _ (answered_line ?_ _)
    cases error <;> simp [TransferError.replyCode]

/-- A command that begins no transfer has one reply, or two if it lists a directory. -/
theorem Form.tells {command : Command} {program : Program (Status × Session)}
    (h : Form setting session argument command program) (hmode : command.transferMode? = none) :
    program.Tells session.control fun replies _ => Answered replies .idle := by
  cases h with
  | transfers transferMode => cases hmode.symm.trans transferMode
  | succeeds _ succeeds => exact succeeds.tells
  | fails _ fails => exact fails.tells
  | consults consults ends =>
    have hfail : ∀ text, Answered [.line 550 text] .idle := answered_line (by decide)
    refine tells_withPath (fun path => tells_request ?_ fun answer => ?_) hfail
    · cases consults <;> rfl
    · exact (ends path answer).elim Succeeds.tells fun h => h.2.tells
  | abor =>
    have hfinal : Answered [.line 226 "ABOR successful."] .idle := answered_line (by decide) _
    refine (plays_abor session).tells ?_ hfinal
    rw [repliesIn_append, repliesIn_released]
    rfl
  | port =>
    refine (silent_closePassive session).tells_bind_of (returns_closePassive session rfl) ?_
    rintro _ rfl
    exact tells_succeed 200 _ (answered_line (by decide) _)
  | pasv => exact tells_pasv
  | lists => exact tells_listing _

theorem tells_run (hidle : session.isTransferring = false) (command : Command) :
    (command.run setting session argument).Tells session.control fun replies result =>
      Answered replies result.2.transmission := by
  have hsession := Transmission.eq_idle_of_not_isActive hidle
  cases hmode : command.transferMode? with
  | none =>
    have hform := command.form setting session argument
    refine ((hform.tells hmode).and_returns hform.returns).mono ?_
    rintro replies result ⟨hanswered, hchange⟩
    rcases hchange.transmission_eq hmode with h | h
    · rwa [h, hsession]
    · rwa [h]
  | some mode =>
    obtain ⟨next, hrun, htransfers⟩ := Command.transfers setting session argument hmode
    rw [hrun]
    refine tells_withPath (fun path => (htransfers path).tells hidle) fun text => ?_
    exact hsession ▸ answered_line (by decide) text

theorem tells_touch {α : Type} {control : Socket} {post : List Reply → α → Prop}
    {next : Session → Program α}
    (h : ∀ now, (next { session with lastCommand := now }).Tells control post) :
    (Dispatch.touch session >>= next).Tells control post :=
  show (request .unixTime >>= fun now => next { session with lastCommand := now }).Tells control
    post from tells_request rfl h

/-- A line of a session without a transfer. -/
theorem tells_dispatch (hidle : session.isTransferring = false) (raw : Text) :
    (Dispatch.dispatch setting session raw).Tells session.control fun replies result =>
      Answered replies result.2.transmission := by
  have hsession := Transmission.eq_idle_of_not_isActive hidle
  have hline : ∀ code text, 200 ≤ code → Answered [.line code text] session.transmission :=
    fun code text hcode => hsession ▸ answered_line hcode text
  unfold Dispatch.dispatch
  cases hfind : Command.find? (Command.upperVerb raw) setting.config.extensions with
  | none =>
    simp only [hfind]
    exact tells_say 500 raw (tells_touch fun now => tells_done _ (hline 500 raw (by decide)))
  | some command =>
    simp only [hfind]
    cases hverdict : Dispatch.verdict setting session command with
    | notLoggedIn => exact tells_say 530 _ (tells_done _ (hline 530 _ (by decide)))
    | denied => exact tells_say 550 _ (tells_done _ (hline 550 _ (by decide)))
    | ignored =>
      rw [(isTransferring_of_ignored hverdict).1] at hidle
      cases hidle
    | run =>
      refine (tells_run hidle command).bind fun replies result hanswered => ?_
      refine tells_touch fun now => tells_done _ ?_
      rwa [List.append_nil]

/-! ## Lines during a transfer -/

/-- The replies to a line during a transfer, and what becomes of the transfer. Which of these it is
hangs on the line and the rights of the account alone. -/
inductive Interjected (setting : Setting) (session : Session) (raw : Text) :
    List Reply → Status × Session → Prop
  | unknown {status : Status} {session' : Session}
    (find : Command.find? (Command.upperVerb raw) setting.config.extensions = none)
    (same : session'.transmission = session.transmission) :
    Interjected setting session raw [.line 500 raw] (status, session')
  /-- The account lacks a right. -/
  | denied {command : Command} {account : AccountId} {status : Status}
    (find : Command.find? (Command.upperVerb raw) setting.config.extensions = some command)
    (needsLogin : command.needsLogin = true)
    (login : session.loggedIn? = some account)
    (lacks : setting.accounts.grants account command.rights = false) :
    Interjected setting session raw [.line 550 "Permission denied."] (status, session)
  | abor {session' : Session}
    (find : Command.find? (Command.upperVerb raw) setting.config.extensions = some .abor)
    (idle : session'.transmission = .idle) :
    Interjected setting session raw [.line 226 "ABOR successful."] (.success, session')
  | quit {session' : Session}
    (find : Command.find? (Command.upperVerb raw) setting.config.extensions = some .quit)
    (same : session'.transmission = session.transmission) :
    Interjected setting session raw [.line 221 "Goodbye."] (.close, session')
  /-- The account holds every right that the command needs. -/
  | ignored {command : Command}
    (find : Command.find? (Command.upperVerb raw) setting.config.extensions = some command)
    (habor : command ≠ .abor) (hquit : command ≠ .quit)
    (granted : command.needsLogin = true → ∃ account, session.loggedIn? = some account ∧
      setting.accounts.grants account command.rights = true) :
    Interjected setting session raw [] (.success, session)

theorem not_granted_of_lacks {command : Command} {account : AccountId}
    (login : session.loggedIn? = some account)
    (lacks : setting.accounts.grants account command.rights = false) :
    ¬∃ account, session.loggedIn? = some account ∧
      setting.accounts.grants account command.rights = true := by
  rintro ⟨other, login', grants⟩
  cases login.symm.trans login'
  cases grants.symm.trans lacks

/-- The line and the rights of the account settle what is sent. -/
theorem Interjected.replies_eq {raw : Text} {replies replies' : List Reply}
    {result result' : Status × Session} (h : Interjected setting session raw replies result)
    (h' : Interjected setting session raw replies' result') : replies = replies' := by
  cases h with
  | unknown find =>
    cases h' with
    | unknown => rfl
    | denied find' | abor find' | quit find' | ignored find' => cases find.symm.trans find'
  | denied find needsLogin login lacks =>
    cases h' with
    | unknown find' => cases find.symm.trans find'
    | denied => rfl
    | abor find' | quit find' =>
      cases find.symm.trans find'
      cases needsLogin
    | ignored find' _ _ granted =>
      cases find.symm.trans find'
      exact absurd (granted needsLogin) (not_granted_of_lacks login lacks)
  | abor find | quit find =>
    cases h' with
    | unknown find' | abor find' | quit find' => cases find.symm.trans find' <;> rfl
    | denied find' needsLogin =>
      cases find.symm.trans find'
      cases needsLogin
    | ignored find' habor hquit =>
      cases find.symm.trans find'
      contradiction
  | ignored find habor hquit granted =>
    cases h' with
    | unknown find' => cases find.symm.trans find'
    | denied find' needsLogin login lacks =>
      cases find.symm.trans find'
      exact absurd (granted needsLogin) (not_granted_of_lacks login lacks)
    | abor find' | quit find' =>
      cases find.symm.trans find'
      contradiction
    | ignored => rfl

/-- Only the session and its account are grounds for a refusal. -/
theorem access_of_refused {command : Command} {refusal : Dispatch.Verdict}
    (h : Dispatch.verdict setting session command = refusal) (hrun : refusal ≠ .run)
    (hignored : refusal ≠ .ignored) : Dispatch.access setting session command = refusal := by
  unfold Dispatch.verdict at h
  split at h
  · split at h
    · exact absurd h.symm hignored
    · exact absurd h.symm hrun
  · exact h

theorem loggedIn?_of_notLoggedIn {command : Command}
    (h : Dispatch.verdict setting session command = .notLoggedIn) : session.loggedIn? = none := by
  have hneeds := needsLogin_of_verdict h (by decide) (by decide)
  have haccess := access_of_refused h (by decide) (by decide)
  rw [Dispatch.access, if_pos hneeds] at haccess
  cases hid : session.loggedIn? with
  | none => rfl
  | some account =>
    simp only [hid] at haccess
    split at haccess <;> cases haccess

theorem grants_of_denied {command : Command}
    (h : Dispatch.verdict setting session command = .denied) :
    ∃ account, session.loggedIn? = some account ∧
      setting.accounts.grants account command.rights = false := by
  have hneeds := needsLogin_of_verdict h (by decide) (by decide)
  have haccess := access_of_refused h (by decide) (by decide)
  rw [Dispatch.access, if_pos hneeds] at haccess
  cases hid : session.loggedIn? with
  | none => simp only [hid, reduceCtorEq] at haccess
  | some account =>
    simp only [hid] at haccess
    split at haccess
    · cases haccess
    · rename_i hgrants
      exact ⟨account, rfl, eq_false_of_ne_true hgrants⟩

/-- A line of a session with a transfer. -/
theorem tells_dispatch_transferring (hactive : session.isTransferring = true)
    (hlogin : session.isLoggedIn = true) (raw : Text) :
    (Dispatch.dispatch setting session raw).Tells session.control
      (Interjected setting session raw) := by
  intro events result run
  cases exec_dispatch_transferring hactive run with
  | unknown find now => exact ⟨[_], rfl, .unknown find rfl⟩
  | notLoggedIn find verdict =>
    rw [isLoggedIn_eq, loggedIn?_of_notLoggedIn verdict] at hlogin
    cases hlogin
  | denied find verdict =>
    obtain ⟨account, hid, hlacks⟩ := grants_of_denied verdict
    have hneeds := needsLogin_of_verdict verdict (by decide) (by decide)
    exact ⟨[_], rfl, .denied find hneeds hid hlacks⟩
  | ignored find verdict =>
    have hduring := (isTransferring_of_ignored verdict).2
    exact ⟨[], rfl, .ignored find (by rintro rfl; cases hduring) (by rintro rfl; cases hduring)
      (grants_of_access (access_of_ignored verdict))⟩
  | abor find now =>
    refine ⟨[_], ?_, .abor find rfl⟩
    rw [repliesIn_append, repliesIn_released]
    rfl
  | quit find now => exact ⟨[_], rfl, .quit find rfl⟩

end Lines

end Ftp
