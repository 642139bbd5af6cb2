import Ftp.Proofs.Form
import Ftp.Proofs.Monitor

/-!
# What a command makes of its session

Every command changes few fields of the session, on any platform, and `Change` lists what becomes of
them. That each form of command keeps to the list is shown here, so that what all commands keep is
shown by going through the list and not through the actions again.

* `returns_step`: a step of a transfer;
* `returns_openPassive`: a new passive listener;
* `returns_run`: a command;
* `returns_dispatch`, `returns_processInput`: a line, and the next line of the input.
-/

namespace Ftp

open Program

/-! ## Answers -/

section Answers

variable {session : Session} {post : Status × Session → Prop}

@[simp] theorem returns_say (session : Session) (code : Nat) (text : Text) (post : Unit → Prop) :
    (session.say code text).Returns post ↔ post () :=
  (returns_ask ..).trans ⟨fun h => h (), fun h _ => h⟩

@[simp] theorem returns_fail (code : Nat) (text : Text) :
    (session.fail code text).Returns post ↔ post (.failure text, session) := by
  simp [Session.fail]

@[simp] theorem returns_succeed (code : Nat) (text : Text) :
    (session.succeed code text).Returns post ↔ post (.success, session) := by
  simp [Session.succeed]

theorem returns_withPath {setting : Setting} {path : Text}
    {next : Text → Program (Status × Session)}
    (hnext : ∀ resolved, (next resolved).Returns post)
    (hfail : ∀ status, post (status, session)) :
    (setting.withPath session path next).Returns post := by
  unfold Setting.withPath
  split
  · exact hnext _
  · rw [returns_fail]; exact hfail _

theorem returns_withConnection {setting : Setting} {next : Socket → Program (Status × Session)}
    (hnext : ∀ socket, (next socket).Returns post) (hfail : ∀ status, post (status, session)) :
    (DataChannel.withConnection setting session next).Returns post := by
  unfold DataChannel.withConnection
  rw [returns_bind]
  refine returns_of_forall (fun established => ?_) _
  cases established with
  | ok socket => exact hnext socket
  | error error => exact (returns_fail _ _).2 (hfail _)

end Answers

/-! ## Transfers -/

theorem returns_release (transmission : Transmission) {post : Unit → Prop} (h : post ()) :
    (Transfer.release transmission).Returns post := by
  cases transmission <;> simp [Transfer.release, h]

theorem returns_close (session : Session) {post : Session → Prop}
    (h : post { session with transmission := .idle }) : (Transfer.close session).Returns post := by
  unfold Transfer.close
  rw [returns_bind]
  exact returns_release _ h

theorem returns_step (setting : Setting) (session : Session) :
    (Transfer.step setting session).Returns fun result =>
      ∃ now transmission, session.transmission.Advances transmission ∧
        result.2 = { session with lastCommand := now, transmission } := by
  simp only [Transfer.step, request, ask_bind, done_bind, returns_ask]
  intro now
  have hend : (Transfer.finish { session with lastCommand := now }).Returns fun result =>
      ∃ now transmission, session.transmission.Advances transmission ∧
        result.2 = { session with lastCommand := now, transmission } := by
    unfold Transfer.finish
    rw [returns_bind]
    exact returns_close _ ⟨now, .idle, .ended _, rfl⟩
  cases htransmission : session.transmission with
  | idle => exact ⟨now, _, .same _, by rw [← htransmission]⟩
  | retrieving file socket remaining =>
    rw [htransmission] at hend
    rw [returns_bind]
    refine returns_of_forall (fun left? => ?_) _
    cases left? with
    | none => exact hend
    | some left => exact ⟨now, _, .remaining _ _ _ _, rfl⟩
  | storing file socket =>
    rw [htransmission] at hend
    rw [returns_bind]
    refine returns_of_forall (fun goesOn => ?_) _
    cases goesOn with
    | false => exact hend
    | true => exact ⟨now, _, .same _, by rw [← htransmission]⟩

/-! ## Commands -/

section Actions

variable {setting : Setting} {session : Session} {argument : Text}

theorem returns_closePassive (session : Session) {post : Session → Prop}
    (h : post { session with passiveListener := none, forwardedPort := none }) :
    (DataChannel.closePassive session).Returns post := by
  unfold DataChannel.closePassive
  rw [returns_bind]
  refine returns_of_forall (fun _ => ?_) _
  rw [returns_bind]
  exact returns_of_forall (fun _ => h) _

theorem returns_openPassive (setting : Setting) (session : Session) :
    (DataChannel.openPassive setting session).Returns fun result =>
      match result with
      | (.ok endpoint, session') =>
        DataChannel.passivePort setting.config.passivePortBase session.slot = .ok endpoint.port ∧
          ∃ listener forwarded, (∀ port, forwarded = some port → port = endpoint.port) ∧
            session' = { session with
              passiveListener := some listener, forwardedPort := forwarded }
      | (.error _, session') =>
        session' = { session with passiveListener := none, forwardedPort := none } := by
  unfold DataChannel.openPassive
  rw [returns_bind]
  refine returns_closePassive session ?_
  cases hport : DataChannel.passivePort setting.config.passivePortBase session.slot with
  | error error => simp
  | ok port =>
    simp only [request, ask_bind, done_bind, returns_ask]
    intro bound
    cases bound with
    | error cause => simp
    | ok listener =>
      rw [returns_ask]
      intro outside?
      cases outside? with
      | some outside => simp
      | none =>
        rw [returns_bind]
        exact returns_of_forall (fun own => by simp) _

theorem returns_transfer (setting : Setting) (session : Session) (transmission : Transmission) :
    (Action.transfer setting session transmission).Returns fun result =>
      result.2 = session ∨ ∃ now transmission', transmission.Advances transmission' ∧
        result.2 = { session with transmission := transmission', lastCommand := now } := by
  unfold Action.transfer Transfer.start
  cases session.isTransferring with
  | true =>
    simp only [if_true, returns_bind]
    exact returns_release _ ((returns_fail _ _).2 (.inl rfl))
  | false =>
    simp only [Bool.false_eq_true, if_false, returns_bind]
    refine (returns_step setting _).mono ?_
    rintro ⟨outcome, session'⟩ ⟨now, transmission', h, rfl⟩
    exact .inr ⟨now, transmission', h, rfl⟩

theorem returns_transferFile (setting : Setting) (session : Session) (socket : Socket) (path : Text)
    (mode : OpenMode) (refusal : Text) (transmission : File → Transmission) :
    (Action.transferFile setting session socket path mode refusal transmission).Returns
      fun result => result.2 = session ∨
        ∃ file now transmission', (transmission file).Advances transmission' ∧
          result.2 = { session with transmission := transmission', lastCommand := now } := by
  simp only [Action.transferFile, request, ask_bind, done_bind, returns_ask]
  intro opened
  cases opened with
  | ok file =>
    refine (returns_transfer setting session _).mono fun result h => ?_
    obtain h | ⟨now, transmission', h⟩ := h
    · exact .inl h
    · exact .inr ⟨file, now, transmission', h⟩
  | error error =>
    rw [returns_ask]
    exact fun _ => (returns_fail _ _).2 (.inl rfl)

theorem returns_listing (setting : Setting) (session : Session) (format : ListFormat) :
    (Action.listing setting session format).Returns fun result => result.2 = session := by
  refine returns_withPath (fun _ => returns_withConnection (fun socket => ?_) fun _ => rfl)
    fun _ => rfl
  rw [returns_bind]
  refine returns_of_forall (fun _ => ?_) _
  rw [returns_bind]
  exact returns_of_forall (fun _ => rfl) _

theorem Succeeds.returns {command : Command} {program : Program (Status × Session)}
    (h : Succeeds setting session argument command program) :
    program.Returns fun result => Change setting session argument command result.2 := by
  cases h with
  | intro leaves => exact (returns_ask ..).2 fun _ => leaves.change

theorem Fails.returns {command : Command} {program : Program (Status × Session)}
    (h : Fails setting session argument command program) :
    program.Returns fun result => Change setting session argument command result.2 := by
  cases h with
  | intro leaves => exact (returns_fail _ _).2 leaves.change

theorem Transfers.returns {path : Text} {command : Command}
    {program : Program (Status × Session)}
    (h : Transfers setting session argument path command program) :
    program.Returns fun result => Change setting session argument command result.2 := by
  induction h with
  | fails => exact (returns_fail _ _).2 (.nothing _)
  | asks _ _ ih => exact (returns_ask ..).2 ih
  | begins carries =>
    refine returns_withConnection (fun socket => ?_) fun _ => .nothing _
    rw [returns_bind, returns_say]
    refine (returns_transferFile ..).mono fun result h => ?_
    rcases h with h | ⟨file, now, transmission, hadvances, h⟩ <;> rw [h]
    · exact .nothing _
    · cases carries with
      | download => exact .retr hadvances
      | upload => exact .stor hadvances

theorem returns_pasv (setting : Setting) (session : Session) (argument : Text) :
    (Action.pasv setting session).Returns fun result =>
      Change setting session argument .pasv result.2 := by
  unfold Action.pasv
  rw [returns_bind]
  refine (returns_openPassive setting session).mono ?_
  rintro ⟨opened, session'⟩ h
  cases opened with
  | error error => exact (returns_fail _ _).2 (h ▸ .noPasv)
  | ok endpoint =>
    obtain ⟨hport, listener, forwarded, hforward, rfl⟩ := h
    exact (returns_succeed _ _).2 (.pasv listener hport fun port hp => hforward port hp)

theorem Form.returns {command : Command} {program : Program (Status × Session)}
    (h : Form setting session argument command program) :
    program.Returns fun result => Change setting session argument command result.2 := by
  cases h with
  | succeeds _ succeeds => exact succeeds.returns
  | fails _ fails => exact fails.returns
  | consults _ ends =>
    refine returns_withPath (fun path => (returns_ask ..).2 fun answer => ?_) fun _ => .nothing _
    exact (ends path answer).elim Succeeds.returns fun h => h.2.returns
  | abor =>
    unfold Action.abor
    rw [returns_bind]
    exact returns_close session ((returns_succeed _ _).2 .abor)
  | port hnumber =>
    rw [returns_bind]
    exact returns_closePassive session ((returns_succeed _ _).2 (.port hnumber))
  | pasv => exact returns_pasv setting session argument
  | lists => exact (returns_listing setting session _).mono fun _ h => h ▸ .nothing _
  | transfers _ transfers =>
    exact returns_withPath (fun path => (transfers path).returns) fun _ => .nothing _

theorem returns_run (setting : Setting) (session : Session) (argument : Text) (command : Command) :
    (command.run setting session argument).Returns fun result =>
      Change setting session argument command result.2 :=
  (command.form setting session argument).returns

end Actions

/-! ## Lines -/

/-- What a line may make of a session. -/
inductive Served (setting : Setting) (session : Session) (raw : Text) : Session → Prop
  /-- The line is refused, or not heard. -/
  | refused : Served setting session raw session
  | unknown {now : Int}
    (find : Command.find? (Command.upperVerb raw) setting.config.extensions = none) :
    Served setting session raw { session with lastCommand := now }
  | run {command : Command} {session' : Session} {now : Int}
    (find : Command.find? (Command.upperVerb raw) setting.config.extensions = some command)
    (verdict : Dispatch.verdict setting session command = .run)
    (change : Change setting session (command.argument (Command.upperVerb raw)) command session') :
    Served setting session raw { session' with lastCommand := now }

theorem returns_dispatch (setting : Setting) (session : Session) (raw : Text) :
    (Dispatch.dispatch setting session raw).Returns fun result =>
      Served setting session raw result.2 := by
  unfold Dispatch.dispatch
  cases hfind : Command.find? (Command.upperVerb raw) setting.config.extensions with
  | none =>
    simp only [hfind, returns_bind, returns_say, Dispatch.touch, request, ask_bind, done_bind,
      returns_ask, pure_eq, returns_done]
    exact fun now => .unknown hfind
  | some command =>
    simp only [hfind]
    cases hverdict : Dispatch.verdict setting session command with
    | notLoggedIn | denied =>
      simp only [returns_bind, returns_say, pure_eq, returns_done]
      exact .refused
    | ignored => exact (returns_done _ _).2 .refused
    | run =>
      simp only [returns_bind]
      refine (returns_run setting session _ command).mono fun result hchange => ?_
      simp only [Dispatch.touch, request, ask_bind, done_bind, returns_ask, pure_eq, returns_done]
      exact fun now => .run hfind hverdict hchange

/-- The same connection in the same slot. -/
structure Session.SameClient (session session' : Session) : Prop where
  slot : session'.slot = session.slot
  control : session'.control = session.control
  remote : session'.remote = session.remote

theorem Session.SameClient.trans {s₁ s₂ s₃ : Session} (h : s₁.SameClient s₂)
    (h' : s₂.SameClient s₃) : s₁.SameClient s₃ :=
  ⟨h'.slot.trans h.slot, h'.control.trans h.control, h'.remote.trans h.remote⟩

theorem Change.sameClient {setting : Setting} {session session' : Session} {argument : Text}
    {command : Command} (h : Change setting session argument command session') :
    session.SameClient session' := by
  cases h <;> exact ⟨rfl, rfl, rfl⟩

theorem Served.sameClient {setting : Setting} {session session' : Session} {raw : Text}
    (h : Served setting session raw session') : session.SameClient session' := by
  cases h with
  | refused => exact ⟨rfl, rfl, rfl⟩
  | unknown => exact ⟨rfl, rfl, rfl⟩
  | run _ _ hchange =>
    have hclient := hchange.sameClient
    exact ⟨hclient.slot, hclient.control, hclient.remote⟩

/-- What serving the next line makes of a session. -/
inductive Heard (setting : Setting) (session : Session) : Session → Prop
  /-- There is no line, or one that is too long. -/
  | quiet (input : LineBuffer) : Heard setting session { session with input }
  | line {raw : Text} {input : LineBuffer} {session' : Session}
    (next : session.input.nextLine? = some (raw, input))
    (served : Served setting { session with input } raw session') : Heard setting session session'

theorem returns_processInput (setting : Setting) (session : Session) :
    (Dispatch.processInput setting session).Returns fun result =>
      Heard setting session result.2 := by
  unfold Dispatch.processInput
  cases hline : session.input.nextLine? with
  | some next => exact (returns_dispatch setting _ next.1).mono fun result h => .line hline h
  | none =>
    simp only []
    split
    · rw [returns_bind, returns_say]
      exact .quiet _
    · exact .quiet session.input

theorem Heard.sameClient {setting : Setting} {session session' : Session}
    (h : Heard setting session session') : session.SameClient session' := by
  cases h with
  | quiet => exact ⟨rfl, rfl, rfl⟩
  | line _ hserved =>
    have hclient := hserved.sameClient
    exact ⟨hclient.slot, hclient.control, hclient.remote⟩

end Ftp
