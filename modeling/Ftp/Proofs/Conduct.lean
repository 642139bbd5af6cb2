import Ftp.Proofs.Opening
import Ftp.Proofs.Replies

/-!
# What the server says

Most replies are fixed phrases. The others tell something about a file, the session or the server,
or give an unknown line back. A command says nothing but what `Says` lists, and a deed nothing but
what `Server.Tells` does, so that what holds of all replies is shown by going through the list.

* `conducts_run`: a command, which also moves data only if it needs a data connection;
* `conducts_dispatch`: a line;
* `conducts_perform`: a deed, which moves data as `Server.Moves` says;
* `Reachable.tells`: every reply in a history is one of the list.
-/

namespace Ftp

open Program

/-- What may be said in answer to a line. -/
inductive Answers (setting : Setting) (session : Session) (raw : Text) : Reply → Prop
  | phrase {code : Nat} {text : String} (h : (code, text) ∈ phrases) :
    Answers setting session raw (.line code text)
  | echo (find : Command.find? (Command.upperVerb raw) setting.config.extensions = none) :
    Answers setting session raw (.line 500 raw)
  | command {command : Command} {reply : Reply}
    (find : Command.find? (Command.upperVerb raw) setting.config.extensions = some command)
    (verdict : Dispatch.verdict setting session command = .run)
    (voiced : Says setting session (command.argument (Command.upperVerb raw)) reply) :
    Answers setting session raw reply

/-- What may be said in a deed. -/
inductive Server.Tells (server : Server) (deed : Deed) : Reply → Prop
  | phrase {code : Nat} {text : String} (h : (code, text) ∈ phrases) :
    server.Tells deed (.line code text)
  /-- Nothing but an expiry tells a client that its time is up. -/
  | timeout {slot : Nat} (expire : deed = .expire slot) :
    server.Tells deed (.line 421 "Timeout.")
  | line {session : Session} {raw : Text} {input : LineBuffer} {reply : Reply}
    (serve : deed = .serve session.slot)
    (get : server.sessions.get? session.slot = some session)
    (next : session.input.nextLine? = some (raw, input))
    (answers : Answers server.setting { session with input } raw reply) : server.Tells deed reply

/-- The request makes a connection, or moves bytes on one. -/
def Request.movesData : Request → Bool
  | .accept _ _ | .connect _ _ | .send _ _ | .receive _ _ => true
  | _ => false

/-- The connection that the request moves bytes on. -/
def Request.stream? : Request → Option Socket
  | .send socket _ | .receive socket _ => some socket
  | _ => none

/-- The data connection of the transmission. -/
def Transmission.socket? : Transmission → Option Socket
  | .idle => none
  | .retrieving _ socket _ | .storing _ socket => some socket

/-- A deed that is no line accepts clients, moves what is to be transferred, or receives from the
control connection. -/
inductive Server.Moves (server : Server) : Deed → Request → Prop
  | accept (listener : Socket) (wait : Nat) : server.Moves .accept (.accept listener wait)
  | advance {slot : Nat} {session : Session} {socket : Socket} {r : Request}
    (get : server.sessions.get? slot = some session)
    (carries : session.transmission.socket? = some socket) (stream : r.stream? = some socket) :
    server.Moves (.advance slot) r
  | receive {slot : Nat} {session : Session} (get : server.sessions.get? slot = some session)
    (limit : Nat) : server.Moves (.receive slot) (.receive session.control limit)
  | serve (slot : Nat) (r : Request) : server.Moves (.serve slot) r

namespace Program

variable {α β : Type} {voices : Reply → Prop} {moves : Request → Prop}

/-- What the program says is one of `voices`, and it moves data only as `moves` lets it. -/
def Conducts (voices : Reply → Prop) (moves : Request → Prop) (program : Program α) : Prop :=
  program.AsksOnly (fun _ => True) fun r =>
    (∀ control reply, r.reply? = some (control, reply) → voices reply) ∧
      (r.movesData = true → moves r)

theorem conducts_done (value : α) : (Program.done value).Conducts voices moves :=
  trivial

theorem Conducts.bind {program : Program α} {next : α → Program β}
    (h : program.Conducts voices moves) (hnext : ∀ value, (next value).Conducts voices moves) :
    (program >>= next).Conducts voices moves :=
  AsksOnly.bind h hnext

/-- What comes next depends on what the program gives. -/
theorem Conducts.bind_of {program : Program α} {next : α → Program β} {good : α → Prop}
    (h : program.Conducts voices moves) (hgood : program.Returns good)
    (hnext : ∀ value, good value → (next value).Conducts voices moves) :
    (program >>= next).Conducts voices moves :=
  (safe_bind ..).2 ((Safe.and_returns h hgood).mono fun value _ hvalue => hnext value hvalue.2)

theorem Conducts.mono {voices' : Reply → Prop} {moves' : Request → Prop} {program : Program α}
    (h : program.Conducts voices moves) (hvoices : ∀ reply, voices reply → voices' reply)
    (hmoves : ∀ r, moves r → moves' r) : program.Conducts voices' moves' :=
  AsksOnly.mono h fun r hr =>
    ⟨fun control reply heq => hvoices reply (hr.1 control reply heq),
      fun hmoving => hmoves r (hr.2 hmoving)⟩

/-- A request that neither says anything nor moves data. -/
theorem conducts_request {r : Request} (hreply : r.reply? = none) (hmoves : r.movesData = false) :
    (request r).Conducts voices moves := by
  refine asksOnly_request ⟨fun control reply heq => ?_, fun hmoving => ?_⟩
  · rw [hreply] at heq
    cases heq
  · rw [hmoves] at hmoving
    cases hmoving

theorem conducts_moving {r : Request} (hreply : r.reply? = none) (h : moves r) :
    (request r).Conducts voices moves := by
  refine asksOnly_request ⟨fun control reply heq => ?_, fun _ => h⟩
  rw [hreply] at heq
  cases heq

theorem conducts_reply {control : Socket} {reply : Reply} (h : voices reply) :
    (request (.reply control reply)).Conducts voices moves := by
  refine asksOnly_request ⟨fun _ _ heq => ?_, fun hmoving => Bool.noConfusion hmoving⟩
  cases heq
  exact h

/-- What is said and moved in a run is as it should be. -/
theorem Conducts.voices_of_exec {program : Program α} (h : program.Conducts voices moves)
    {events : List Event} {value : α} (run : Exec program events value) :
    ∀ event ∈ events, ∀ control reply, event.request.reply? = some (control, reply) →
      voices reply :=
  fun event hmem => (AsksOnly.of_exec h run event hmem).1

theorem Conducts.moves_of_exec {program : Program α} (h : program.Conducts voices moves)
    {events : List Event} {value : α} (run : Exec program events value) :
    ∀ event ∈ events, event.request.movesData = true → moves event.request :=
  fun event hmem => (AsksOnly.of_exec h run event hmem).2

end Program

/-! ## Parts of commands -/

section Parts

variable {voices : Reply → Prop} {moves : Request → Prop} {setting : Setting} {session : Session}

theorem conducts_plain {α : Type} {r : Request} {next : r.Answer → Program α}
    (hreply : r.reply? = none) (hmoves : r.movesData = false)
    (hnext : ∀ answer, (next answer).Conducts voices moves) :
    (request r >>= next).Conducts voices moves :=
  (conducts_request hreply hmoves).bind hnext

theorem conducts_closePassive (session : Session) :
    (DataChannel.closePassive session).Conducts voices moves := by
  unfold DataChannel.closePassive
  refine Conducts.bind ?_ fun _ => Conducts.bind ?_ fun _ => conducts_done _
  · cases session.passiveListener with
    | none => exact conducts_done _
    | some listener => exact conducts_request rfl rfl
  · cases session.forwardedPort with
    | none => exact conducts_done _
    | some port => exact conducts_request rfl rfl

theorem conducts_openPassive (setting : Setting) (session : Session) :
    (DataChannel.openPassive setting session).Conducts voices moves := by
  unfold DataChannel.openPassive
  refine (conducts_closePassive session).bind fun session => ?_
  split
  · exact conducts_done _
  · refine conducts_plain rfl rfl fun bound => ?_
    cases bound with
    | error cause => exact conducts_done _
    | ok listener =>
      refine conducts_plain rfl rfl fun outside? => ?_
      cases outside? with
      | some outside => exact conducts_plain rfl rfl fun _ => conducts_done _
      | none =>
        refine Conducts.bind (conducts_plain rfl rfl fun answer => ?_) fun _ => conducts_done _
        cases answer <;> exact conducts_done _

theorem conducts_establish (haccept : ∀ listener wait, moves (.accept listener wait))
    (hconnect : ∀ target wait, moves (.connect target wait)) :
    (DataChannel.establish setting session).Conducts voices moves := by
  unfold DataChannel.establish
  split
  · split
    · refine (conducts_moving rfl (haccept _ _)).bind fun accepted => ?_
      cases accepted with
      | error cause => exact conducts_done _
      | ok client =>
        refine conducts_plain rfl rfl fun admitted => ?_
        cases admitted with
        | true => exact conducts_done _
        | false => exact conducts_plain rfl rfl fun _ => conducts_done _
    · exact conducts_done _
  · split
    · exact conducts_done _
    · refine (conducts_moving rfl (hconnect _ _)).bind fun connected => ?_
      cases connected <;> exact conducts_done _

/-- Every way in which a data connection fails has the same code. -/
theorem returns_establish (setting : Setting) (session : Session) :
    (DataChannel.establish setting session).Returns fun result =>
      ∀ error, result = .error error → error.replyCode = 425 := by
  unfold DataChannel.establish
  split
  · split
    · simp only [DataChannel.acceptFrom, request, ask_bind, done_bind, returns_ask]
      intro accepted
      cases accepted with
      | error cause => rintro _ ⟨⟩; rfl
      | ok client =>
        rw [returns_ask]
        intro admitted
        cases admitted with
        | true => rintro _ ⟨⟩
        | false => exact (returns_ask ..).2 fun _ => by rintro _ ⟨⟩; rfl
    · rintro _ ⟨⟩; rfl
  · split
    · rintro _ ⟨⟩; rfl
    · simp only [DataChannel.connectTo, request, ask_bind, done_bind, returns_ask]
      intro connected
      cases connected with
      | error cause => rintro _ ⟨⟩; rfl
      | ok socket => rintro _ ⟨⟩

theorem returns_openPassive_code (setting : Setting) (session : Session) :
    (DataChannel.openPassive setting session).Returns fun result =>
      ∀ error, result.1 = .error error → error.replyCode = 425 := by
  unfold DataChannel.openPassive
  rw [returns_bind]
  refine returns_of_forall (fun session => ?_) _
  cases hport : DataChannel.passivePort setting.config.passivePortBase session.slot with
  | error error =>
    unfold DataChannel.passivePort at hport
    split at hport
    · cases hport
    · cases hport
      rintro _ ⟨⟩; rfl
  | ok port =>
    simp only [request, ask_bind, done_bind, returns_ask]
    intro bound
    cases bound with
    | error cause => rintro _ ⟨⟩; rfl
    | ok listener =>
      rw [returns_ask]
      intro outside?
      cases outside? with
      | some outside => exact (returns_ask ..).2 fun _ => by rintro _ ⟨⟩
      | none =>
        rw [returns_bind]
        exact returns_of_forall (fun own => by rintro _ ⟨⟩) _

theorem conducts_release (transmission : Transmission) :
    (Transfer.release transmission).Conducts voices moves := by
  cases transmission with
  | idle => exact conducts_done _
  | retrieving file socket _ | storing file socket =>
    exact conducts_plain rfl rfl fun _ => conducts_request rfl rfl

theorem conducts_close (session : Session) : (Transfer.close session).Conducts voices moves :=
  (conducts_release _).bind fun _ => conducts_done _

theorem conducts_receiveUpTo {socket : Socket} (hreceive : ∀ limit, moves (.receive socket limit))
    (attempts space : Nat) (taken : List UInt8) :
    (Transfer.receiveUpTo socket attempts space taken).Conducts voices moves := by
  induction attempts generalizing space taken with
  | zero => exact conducts_done _
  | succ attempts ih =>
    cases space with
    | zero => exact conducts_done _
    | succ space =>
      unfold Transfer.receiveUpTo
      refine (conducts_moving rfl (hreceive _)).bind fun received => ?_
      cases received with
      | ok chunk =>
        simp only []
        split
        · exact conducts_done _
        · exact ih _ _
      | error error =>
        simp only []
        split
        · exact conducts_done _
        · exact ih _ _
        · exact conducts_done _

theorem conducts_touch (session : Session) : (Dispatch.touch session).Conducts voices moves := by
  unfold Dispatch.touch
  exact conducts_plain rfl rfl fun now => conducts_done _

theorem conducts_entryInfo (name : Text) :
    (Listing.entryInfo setting session name).Conducts voices moves := by
  unfold Listing.entryInfo
  split
  · exact conducts_done _
  · exact conducts_plain rfl rfl fun info => by cases info <;> exact conducts_done _

variable (hsay : ∀ code (text : String), (code, text) ∈ phrases → voices (.line code text))

include hsay

theorem conducts_say {code : Nat} {text : String}
    (h : (code, text) ∈ phrases) :
    (session.say code text).Conducts voices moves :=
  conducts_reply (hsay code text h)

theorem conducts_fail {code : Nat} {text : String}
    (h : (code, text) ∈ phrases) :
    (session.fail code text).Conducts voices moves :=
  (conducts_say hsay h).bind fun _ => conducts_done _

theorem conducts_succeed {code : Nat} {text : String}
    (h : (code, text) ∈ phrases) :
    (session.succeed code text).Conducts voices moves :=
  (conducts_say hsay h).bind fun _ => conducts_done _

theorem conducts_withPath {path : Text} {next : Text → Program (Status × Session)}
    (hnext : ∀ resolved, (next resolved).Conducts voices moves) :
    (setting.withPath session path next).Conducts voices moves := by
  unfold Setting.withPath
  split
  · exact hnext _
  · exact conducts_fail hsay (by simp [phrases])

theorem conducts_withConnection (haccept : ∀ listener wait, moves (.accept listener wait))
    (hconnect : ∀ target wait, moves (.connect target wait))
    {next : Socket → Program (Status × Session)}
    (hnext : ∀ socket, (next socket).Conducts voices moves) :
    (DataChannel.withConnection setting session next).Conducts voices moves := by
  refine (conducts_establish haccept hconnect).bind_of (returns_establish setting session) ?_
  intro established hcode
  cases established with
  | ok socket => exact hnext socket
  | error error =>
    simp only [hcode error rfl]
    exact conducts_fail hsay (by simp [phrases])

theorem conducts_retrieveStep (file : File) {socket : Socket}
    (hsend : ∀ bytes, moves (.send socket bytes)) (remaining : Nat) :
    (Transfer.retrieveStep setting session file socket remaining).Conducts voices moves := by
  have hconclude : ∀ {code} {text : String}, (code, text) ∈ phrases →
      (Transfer.concludeRetrieve session code text).Conducts voices moves :=
    fun h => (conducts_say hsay h).bind fun _ => conducts_done _
  unfold Transfer.retrieveStep
  split
  · exact hconclude (by simp [phrases])
  · refine conducts_plain rfl rfl fun chunk? => ?_
    cases chunk? with
    | error error => exact hconclude (by simp [phrases])
    | ok chunk =>
      simp only []
      split
      · exact hconclude (by simp [phrases])
      · refine (conducts_moving rfl (hsend _)).bind fun sent => ?_
        cases sent with
        | error error => exact hconclude (by simp [phrases])
        | ok =>
          simp only []
          split
          · exact hconclude (by simp [phrases])
          · exact conducts_done _

theorem conducts_storeStep (file : File) {socket : Socket}
    (hreceive : ∀ limit, moves (.receive socket limit)) :
    (Transfer.storeStep setting session file socket).Conducts voices moves := by
  have hconclude : ∀ {code} {text : String}, (code, text) ∈ phrases →
      (Transfer.concludeStore session code text).Conducts voices moves :=
    fun h => (conducts_say hsay h).bind fun _ => conducts_done _
  unfold Transfer.storeStep
  refine (conducts_receiveUpTo hreceive _ _ _).bind fun (bytes, state) => ?_
  refine Conducts.bind ?_ fun written => ?_
  · unfold Transfer.writeIfAny
    split
    · exact conducts_done _
    · exact conducts_request rfl rfl
  · cases written with
    | error error => exact hconclude (by simp [phrases])
    | ok =>
      cases state with
      | alive => exact conducts_done _
      | ended | broken => exact hconclude (by simp [phrases])

/-- A step moves data on the connection of the transfer. -/
theorem conducts_step
    (hsend : ∀ file socket remaining, session.transmission = .retrieving file socket remaining →
      ∀ bytes, moves (.send socket bytes))
    (hreceive : ∀ file socket, session.transmission = .storing file socket →
      ∀ limit, moves (.receive socket limit)) :
    (Transfer.step setting session).Conducts voices moves := by
  have hfinish : ∀ session, (Transfer.finish session).Conducts voices moves :=
    fun session => (conducts_close session).bind fun _ => conducts_done _
  unfold Transfer.step
  refine conducts_plain rfl rfl fun now => ?_
  cases htransmission : session.transmission with
  | idle => exact conducts_done _
  | retrieving file socket remaining =>
    refine (conducts_retrieveStep hsay file (hsend _ _ _ htransmission) _).bind fun left? => ?_
    cases left? with
    | some left => exact conducts_done _
    | none => exact hfinish _
  | storing file socket =>
    refine (conducts_storeStep hsay file (hreceive _ _ htransmission)).bind fun goesOn => ?_
    cases goesOn with
    | true => exact conducts_done _
    | false => exact hfinish _

/-- The first step of a transfer in an idle session. -/
theorem conducts_transferFile (hidle : session.isTransferring = false) {socket : Socket}
    (path : Text) (mode : OpenMode) {refusal : String} {transmission : File → Transmission}
    (hsend : ∀ file file' socket' remaining,
      transmission file = .retrieving file' socket' remaining →
      ∀ bytes, moves (.send socket' bytes))
    (hreceive : ∀ file file' socket', transmission file = .storing file' socket' →
      ∀ limit, moves (.receive socket' limit))
    (hrefusal : (451, refusal) ∈ phrases) :
    (Action.transferFile setting session socket path mode refusal transmission).Conducts voices
      moves := by
  unfold Action.transferFile
  refine conducts_plain rfl rfl fun opened => ?_
  cases opened with
  | error error => exact conducts_plain rfl rfl fun _ => conducts_fail hsay hrefusal
  | ok file =>
    simp only [Action.transfer, Transfer.start, hidle, Bool.false_eq_true, if_false]
    exact (conducts_step hsay (hsend file) (hreceive file)).bind fun _ => conducts_done _

theorem conducts_sendEntries {socket : Socket} (hsend : ∀ bytes, moves (.send socket bytes))
    (format : ListFormat) (now : DateTime) (names : List Text) (listed failed : Nat) :
    (Listing.sendEntries setting session socket format now names listed failed).Conducts voices
      moves := by
  induction names generalizing listed failed with
  | nil =>
    unfold Listing.sendEntries
    split
    · exact conducts_say hsay (by simp [phrases])
    · exact conducts_say hsay (by simp [phrases])
  | cons name names ih =>
    unfold Listing.sendEntries
    refine (conducts_entryInfo name).bind fun info? => ?_
    cases info? with
    | none => exact ih _ _
    | some info =>
      refine (conducts_moving rfl (hsend _)).bind fun sent => ?_
      cases sent with
      | error error => exact conducts_say hsay (by simp [phrases])
      | ok => exact ih _ _

theorem conducts_listingSend {socket : Socket} (hsend : ∀ bytes, moves (.send socket bytes))
    (directory : Text) (format : ListFormat) :
    (Listing.send setting session socket directory format).Conducts voices moves := by
  unfold Listing.send
  refine conducts_plain rfl rfl fun names => ?_
  cases names with
  | error error => exact conducts_say hsay (by simp [phrases])
  | ok names =>
    refine (conducts_say hsay (by simp [phrases])).bind fun _ => ?_
    refine conducts_plain rfl rfl fun now => ?_
    exact conducts_sendEntries hsay hsend _ _ _ _ _

end Parts

/-! ## Commands -/

section Commands

variable {setting : Setting} {session : Session} {argument : Text} {moves : Request → Prop}

/-- What a command says about its argument. Only `PASV` announces a listener. -/
structure Voices (setting : Setting) (session : Session) (argument : Text) (command : Command)
    (reply : Reply) : Prop where
  listed : Says setting session argument reply
  passive : reply.code = 227 → command = .pasv

theorem voices_phrase {command : Command} (code : Nat) (text : String)
    (h : (code, text) ∈ phrases) : Voices setting session argument command (.line code text) :=
  ⟨.phrase h, fun hcode => absurd hcode (code_ne_of_mem_phrases h (by decide))⟩

theorem conducts_saying {control : Socket} {command : Command} {reply : Reply}
    (h : Says setting session argument reply) (hcode : reply.code ≠ 227) :
    (request (.reply control reply)).Conducts (Voices setting session argument command) moves :=
  conducts_reply ⟨h, fun heq => absurd heq hcode⟩

theorem conducts_listing {command : Command} (hmoves : ∀ r, moves r) (format : ListFormat) :
    (Action.listing setting session format).Conducts (Voices setting session argument command)
      moves := by
  refine conducts_withPath voices_phrase fun path => ?_
  refine conducts_withConnection voices_phrase (fun _ _ => hmoves _) (fun _ _ => hmoves _)
    fun socket => ?_
  refine (conducts_listingSend voices_phrase (fun _ => hmoves _) _ _).bind fun _ => ?_
  exact conducts_plain rfl rfl fun _ => conducts_done _

theorem Transfers.conducts {path : Text} {command : Command}
    {program : Program (Status × Session)}
    (h : Transfers setting session argument path command program)
    (hidle : session.isTransferring = false) (hmoves : ∀ r, moves r) :
    program.Conducts (Voices setting session argument command) moves := by
  induction h with
  | fails phrase => exact conducts_fail voices_phrase phrase
  | asks inquires _ ih =>
    refine conducts_plain ?_ ?_ ih
    · cases inquires <;> rfl
    · cases inquires <;> rfl
  | begins _ voiced refused =>
    refine conducts_withConnection voices_phrase (fun _ _ => hmoves _) (fun _ _ => hmoves _)
      fun socket => ?_
    refine (conducts_saying voiced (by simp [Reply.code])).bind fun _ => ?_
    exact conducts_transferFile voices_phrase hidle path _ (fun _ _ _ _ _ _ => hmoves _)
      (fun _ _ _ _ _ => hmoves _) refused

theorem conducts_pasv :
    (Action.pasv setting session).Conducts (Voices setting session argument .pasv) moves := by
  refine (conducts_openPassive setting session).bind_of
    (returns_openPassive_code setting session) ?_
  rintro ⟨opened, session'⟩ hcode
  cases opened with
  | ok endpoint =>
    exact (conducts_reply ⟨.passive endpoint, fun _ => rfl⟩).bind fun _ => conducts_done _
  | error error =>
    simp only [hcode error rfl]
    exact conducts_fail voices_phrase (by simp [phrases])

theorem Succeeds.conducts {command : Command} {program : Program (Status × Session)}
    (h : Succeeds setting session argument command program) :
    program.Conducts (Voices setting session argument command) moves := by
  cases h with
  | intro _ voiced _ code_ne => exact (conducts_saying voiced code_ne).bind fun _ => conducts_done _

theorem Fails.conducts {command : Command} {program : Program (Status × Session)}
    (h : Fails setting session argument command program) :
    program.Conducts (Voices setting session argument command) moves := by
  cases h with
  | intro _ phrase => exact conducts_fail voices_phrase phrase

theorem Form.conducts {command : Command} {program : Program (Status × Session)}
    (h : Form setting session argument command program)
    (hidle : command.duringTransfer = false → session.isTransferring = false) :
    program.Conducts (Voices setting session argument command)
      fun _ => command.usesData = true := by
  cases h with
  | succeeds _ succeeds => exact succeeds.conducts
  | fails _ fails => exact fails.conducts
  | consults consults ends =>
    refine conducts_withPath voices_phrase fun path => conducts_plain ?_ ?_ fun answer => ?_
    · cases consults <;> rfl
    · cases consults <;> rfl
    · exact (ends path answer).elim Succeeds.conducts fun h => h.2.conducts
  | abor =>
    exact (conducts_close session).bind fun _ =>
      conducts_succeed voices_phrase (by simp [phrases])
  | port =>
    exact (conducts_closePassive session).bind fun _ =>
      conducts_succeed voices_phrase (by simp [phrases])
  | pasv => exact conducts_pasv
  | lists lists => cases lists <;> exact conducts_listing (fun _ => rfl) _
  | transfers transferMode transfers =>
    have hidle := hidle (duringTransfer_of_transferMode transferMode)
    exact conducts_withPath voices_phrase fun path =>
      (transfers path).conducts hidle fun _ => usesData_of_transferMode transferMode

theorem conducts_run (setting : Setting) (session : Session) (argument : Text) (command : Command)
    (hidle : command.duringTransfer = false → session.isTransferring = false) :
    (command.run setting session argument).Conducts (Voices setting session argument command)
      fun _ => command.usesData = true :=
  (command.form setting session argument).conducts hidle

/-! ## Lines and deeds -/

theorem conducts_dispatch (setting : Setting) (session : Session) (raw : Text) :
    (Dispatch.dispatch setting session raw).Conducts (Answers setting session raw)
      fun _ => True := by
  unfold Dispatch.dispatch
  cases hfind : Command.find? (Command.upperVerb raw) setting.config.extensions with
  | none =>
    simp only [hfind]
    exact (conducts_reply (.echo hfind)).bind fun _ =>
      (conducts_touch session).bind fun _ => conducts_done _
  | some command =>
    simp only [hfind]
    cases hverdict : Dispatch.verdict setting session command with
    | notLoggedIn | denied =>
      exact (conducts_say (fun _ _ => .phrase) (by simp [phrases])).bind fun _ => conducts_done _
    | ignored => exact conducts_done _
    | run =>
      refine Conducts.bind ?_ fun _ => (conducts_touch _).bind fun _ => conducts_done _
      exact (conducts_run setting session _ command (isTransferring_of_verdict hverdict)).mono
        (fun _ h => .command hfind hverdict h.listed) fun _ _ => trivial

end Commands

section Deeds

variable {server : Server} {deed : Deed} {moves : Request → Prop}

theorem conducts_processInput {session : Session} (serve : deed = .serve session.slot)
    (get : server.sessions.get? session.slot = some session) :
    (Dispatch.processInput server.setting session).Conducts (server.Tells deed)
      fun _ => True := by
  unfold Dispatch.processInput
  cases hline : session.input.nextLine? with
  | some next =>
    exact (conducts_dispatch server.setting { session with input := next.2 } next.1).mono
      (fun _ => .line serve get hline) fun _ _ => trivial
  | none =>
    simp only []
    split
    · exact (conducts_say (fun _ _ => .phrase) (by simp [phrases])).bind fun _ => conducts_done _
    · exact conducts_done _

theorem conducts_closeSlot {voices : Reply → Prop} (slot : Nat) (table : SessionTable) :
    (Server.closeSlot slot table).Conducts voices moves := by
  refine Conducts.bind ?_ fun _ => conducts_done _
  unfold SessionTable.close
  split
  · exact conducts_done _
  · refine (conducts_close _).bind fun session => ?_
    refine (conducts_closePassive session).bind fun _ => ?_
    exact conducts_plain rfl rfl fun _ => conducts_done _

theorem conducts_acceptClient {voices : Reply → Prop}
    (hsay : ∀ code (text : String), (code, text) ∈ phrases → voices (.line code text))
    (haccept : ∀ listener wait, moves (.accept listener wait)) (listener : Socket)
    (table : SessionTable) : (Server.acceptClient listener table).Conducts voices moves := by
  unfold Server.acceptClient
  refine (conducts_moving rfl (haccept _ _)).bind fun accepted => ?_
  cases accepted with
  | error error => exact conducts_done _
  | ok client =>
    refine conducts_plain rfl rfl fun admitted => ?_
    cases admitted with
    | false => exact conducts_plain rfl rfl fun _ => conducts_done _
    | true =>
      simp only [if_true, Server.welcome]
      refine conducts_plain rfl rfl fun now => ?_
      split
      · have hwelcome : voices (.line 220 "Welcome to mini-ftpd.") := hsay _ _ (by simp [phrases])
        exact (conducts_reply hwelcome).bind fun _ => conducts_done _
      · exact conducts_plain rfl rfl fun _ => conducts_done _

theorem conducts_receive {voices : Reply → Prop} (setting : Setting) (session : Session)
    (hreceive : ∀ limit, moves (.receive session.control limit)) :
    (Server.receive setting session).Conducts voices moves := by
  simp only [Server.receive]
  split
  · exact conducts_done _
  · refine (conducts_moving rfl (hreceive _)).bind fun received => ?_
    cases received with
    | ok chunk =>
      simp only []
      split <;> exact conducts_done _
    | error error =>
      simp only []
      split <;> exact conducts_done _

theorem conducts_onSession {voices : Reply → Prop} {slot : Nat}
    {next : Session → Program SessionTable}
    (hnext : ∀ session, server.sessions.get? slot = some session →
      (next session).Conducts voices moves) :
    (server.onSession slot next).Conducts voices moves :=
  asksOnly_onSession hnext

theorem conducts_perform (placed : server.sessions.Placed) (deed : Deed) :
    (server.perform deed).Conducts (server.Tells deed) (server.Moves deed) := by
  -- Apart from a line and an expiry, a deed has nothing to say but phrases.
  have hsay : ∀ code (text : String), (code, text) ∈ phrases →
      server.Tells deed (.line code text) := fun _ _ => .phrase
  cases deed with
  | start =>
    refine Conducts.bind ?_ fun _ => conducts_done _
    unfold Server.start
    refine conducts_plain rfl rfl fun bound => ?_
    cases bound with
    | error cause => exact conducts_done _
    | ok listener =>
      refine conducts_plain rfl rfl fun endpoint => ?_
      cases endpoint <;> exact conducts_done _
  | register account =>
    simp only [Server.perform]
    split <;> exact conducts_done _
  | advance slot =>
    refine conducts_onSession fun session hget => Conducts.bind ?_ fun _ => conducts_done _
    exact conducts_step hsay (fun _ _ _ h _ => .advance hget (by rw [h]; rfl) rfl)
      fun _ _ h _ => .advance hget (by rw [h]; rfl) rfl
  | poll =>
    refine asksOnly_onListener fun listener => Conducts.bind ?_ fun _ => conducts_done _
    exact conducts_plain rfl rfl fun ready => by cases ready <;> exact conducts_done _
  | accept =>
    exact asksOnly_onListener fun listener =>
      conducts_acceptClient hsay .accept listener _
  | receive slot =>
    exact conducts_onSession fun session hget =>
      (conducts_receive _ session (.receive hget)).bind fun _ => conducts_done _
  | serve slot =>
    refine conducts_onSession fun session hget => ?_
    obtain rfl := placed slot session hget
    refine Conducts.bind ?_ fun _ => conducts_done _
    exact (conducts_processInput rfl hget).mono (fun _ h => h) fun r _ => .serve _ r
  | close slot => exact (conducts_closeSlot slot _).bind fun _ => conducts_done _
  | readClock => exact conducts_plain rfl rfl fun _ => conducts_done _
  | expire slot =>
    exact conducts_onSession fun session _ =>
      (conducts_reply (.timeout rfl)).bind fun _ => conducts_closeSlot slot _
  | unlisten =>
    refine Conducts.bind ?_ fun _ => conducts_done _
    cases server.listener with
    | none => exact conducts_done _
    | some listener => exact conducts_request rfl rfl

/-- Every reply in a history is one that the server may give there. -/
theorem Reachable.tells {newer older : List Entry} {entry : Entry}
    (h : Reachable (newer ++ entry :: older) server) :
    ∀ event ∈ entry.events, ∀ control reply, event.request.reply? = some (control, reply) →
      entry.before.Tells entry.deed reply := by
  obtain ⟨hreachable, server', run⟩ := h.of_append
  exact (conducts_perform hreachable.placed entry.deed).voices_of_exec run

end Deeds

end Ftp
