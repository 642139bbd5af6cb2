import Ftp.Proofs.Conduct

/-!
# How connections are made

A client at the control listener is asked about before anything is said to it, and so is whoever
connects for data. A command makes at most one data connection, to where the session says or from
where it listens, and moves all its data over that.

* `exec_acceptClient`: a client at the control listener;
* `withConnection_of_target`: a command that needs a data connection while there is no target;
* `dataRun_run`, `dataRun_processInput`: a command, and the next line of the input.
-/

namespace Ftp

open Program

/-! ## Clients -/

/-- The runs of accepting a client at the control listener. -/
inductive AcceptRun (listener : Socket) (table : SessionTable) : List Event → SessionTable → Prop
  | nobody (error : IoError) : AcceptRun listener table [⟨.accept listener 0, .error error⟩] table
  | rejected (control : Socket) (remote : Endpoint) :
    AcceptRun listener table
      [⟨.accept listener 0, .ok (control, remote)⟩, ⟨.admits remote.ip, false⟩,
        ⟨.closeSocket control, ()⟩] table
  /-- There is no slot left. -/
  | surplus (control : Socket) (remote : Endpoint) (now : Int) :
    AcceptRun listener table
      [⟨.accept listener 0, .ok (control, remote)⟩, ⟨.admits remote.ip, true⟩, ⟨.unixTime, now⟩,
        ⟨.closeSocket control, ()⟩] table
  | welcomed {control : Socket} {remote : Endpoint} {now : Int} {slot : Nat}
    {table' : SessionTable} (insert : table.insert control remote now = .ok (slot, table')) :
    AcceptRun listener table
      [⟨.accept listener 0, .ok (control, remote)⟩, ⟨.admits remote.ip, true⟩, ⟨.unixTime, now⟩,
        said control 220 "Welcome to mini-ftpd."] table'

theorem exec_acceptClient {listener : Socket} {table table' : SessionTable} {events : List Event}
    (run : Exec (Server.acceptClient listener table) events table') :
    AcceptRun listener table events table' := by
  simp only [Server.acceptClient, request, ask_bind, done_bind, exec_ask_iff] at run
  obtain ⟨accepted, _, rfl, run⟩ := run
  cases accepted with
  | error error =>
    obtain ⟨rfl, rfl⟩ := exec_done_iff.1 run
    exact .nobody error
  | ok client =>
    obtain ⟨admitted, _, rfl, hadmitted⟩ := exec_ask_iff.1 run
    cases admitted with
    | false =>
      obtain ⟨_, _, rfl, hdone⟩ := exec_ask_iff.1 hadmitted
      obtain ⟨rfl, rfl⟩ := exec_done_iff.1 hdone
      exact .rejected client.1 client.2
    | true =>
      simp only [if_true, Server.welcome, request, ask_bind, done_bind, exec_ask_iff] at hadmitted
      obtain ⟨now, _, rfl, hwelcome⟩ := hadmitted
      cases hinsert : table.insert client.1 client.2 now with
      | error error =>
        simp only [hinsert] at hwelcome
        obtain ⟨_, _, rfl, hdone⟩ := exec_ask_iff.1 hwelcome
        obtain ⟨rfl, rfl⟩ := exec_done_iff.1 hdone
        exact .surplus client.1 client.2 now
      | ok opened =>
        simp only [hinsert] at hwelcome
        obtain ⟨_, _, rfl, hdone⟩ := exec_ask_iff.1 hwelcome
        obtain ⟨rfl, rfl⟩ := exec_done_iff.1 hdone
        exact .welcomed hinsert

/-- A server that is not started accepts nobody. -/
theorem exec_accept {server server' : Server} {events : List Event}
    (run : Exec (server.perform .accept) events server') :
    (events = [] ∧ server' = server) ∨
      ∃ listener sessions, server.listener = some listener ∧
        AcceptRun listener server.sessions events sessions ∧
        server' = { server with sessions } := by
  by_cases hlistener : server.listener = none
  · simp only [Server.perform, Server.onListener] at run
    split at run
    · exact .inl (exec_done_iff.1 run)
    · rename_i hsome
      rw [hlistener] at hsome
      cases hsome
  · obtain ⟨listener, hlistener⟩ := Option.ne_none_iff_exists'.1 hlistener
    rw [Server.perform, Server.onListener_eq hlistener] at run
    obtain ⟨accepting, sessions, _, rfl, haccept, hdone⟩ := Exec.bind_iff.1 run
    obtain ⟨rfl, rfl⟩ := exec_done_iff.1 hdone
    rw [List.append_nil]
    exact .inr ⟨listener, sessions, hlistener, exec_acceptClient haccept, rfl⟩

/-- A session that has just been admitted was welcomed. -/
theorem exec_accept_admitted {server server' : Server} {events : List Event} {slot : Nat}
    {session : Session} (run : Exec (server.perform .accept) events server')
    (free : server.sessions.get? slot = none) (get : server'.sessions.get? slot = some session) :
    ∃ listener, events =
      [⟨.accept listener 0, .ok (session.control, session.remote)⟩,
        ⟨.admits session.remote.ip, true⟩, ⟨.unixTime, session.lastCommand⟩,
        said session.control 220 "Welcome to mini-ftpd."] := by
  have hgone : server.sessions.get? slot ≠ some session := by
    rw [free]
    exact nofun
  rcases exec_accept run with ⟨-, rfl⟩ | ⟨listener, sessions, -, haccept, rfl⟩
  · exact absurd get hgone
  · cases haccept with
    | nobody | rejected | surplus => exact absurd get hgone
    | welcomed insert =>
      obtain ⟨hslot, -, rfl⟩ := SessionTable.insert_eq_ok insert
      rw [SessionTable.get?_put (by exact hslot)] at get
      split at get
      · cases get
        exact ⟨listener, rfl⟩
      · exact absurd get hgone

/-! ## Without a target -/

/-- Without a target every command that needs a data connection is answered alike. -/
theorem withConnection_of_target {setting : Setting} {session : Session}
    (h : session.target = .unset ∨ session.target = .lost)
    (next : Socket → Program (Status × Session)) :
    DataChannel.withConnection setting session next =
      session.fail 425 "Cannot open data connection." := by
  have hestablish : DataChannel.establish setting session = .done (.error .noDataTarget) := by
    unfold Session.target at h
    unfold DataChannel.establish
    split at h <;> rename_i hpassive
    · rw [if_pos hpassive]
      cases hlistener : session.passiveListener with
      | some listener => simp [hlistener] at h
      | none => rfl
    · rw [if_neg hpassive]
      split at h <;> rename_i hport
      · rw [if_pos hport]
        rfl
      · simp at h
  rw [DataChannel.withConnection, hestablish]
  rfl

/-! ## Commands -/

theorem Transmission.Advances.socket? {transmission transmission' : Transmission}
    (h : transmission.Advances transmission') {socket : Socket}
    (hsocket : transmission'.socket? = some socket) : transmission.socket? = some socket := by
  cases h with
  | same | remaining => exact hsocket
  | ended => cases hsocket

/-- The request asks about a file, and has to do with no connection. -/
def Request.inquires : Request → Bool
  | .stat _ | .mayRetrieve _ _ _ => true
  | _ => false

theorem movesData_of_inquires {r : Request} (h : r.inquires = true) : r.movesData = false := by
  cases r <;> first | rfl | cases h

/-- The runs of a command: it makes at most one data connection, as the target of the session says,
and moves data on no other. What transfer there is after it is one from before, or goes over that
connection. -/
inductive DataRun (setting : Setting) (session : Session) : List Event → Session → Prop
  | without {events : List Event} {session' : Session}
    (still : ∀ event ∈ events, event.request.movesData = false)
    (left : ∀ socket, session'.transmission.socket? = some socket →
      session.transmission.socket? = some socket) : DataRun setting session events session'
  | failed {before establishing after : List Event} {session' : Session} {error : TransferError}
    (before_asks : ∀ event ∈ before, event.request.inquires = true)
    (establish : EstablishRun setting.config.connectWait session.remote.ip session.target
      establishing (.error error))
    (after_still : ∀ event ∈ after, event.request.movesData = false)
    (left : session'.transmission.socket? = none) :
    DataRun setting session (before ++ establishing ++ after) session'
  | connected {before establishing after : List Event} {session' : Session} {socket : Socket}
    (before_asks : ∀ event ∈ before, event.request.inquires = true)
    (establish : EstablishRun setting.config.connectWait session.remote.ip session.target
      establishing (.ok socket))
    (after_stream : ∀ event ∈ after, event.request.movesData = true →
      event.request.stream? = some socket)
    (left : ∀ other, session'.transmission.socket? = some other → other = socket) :
    DataRun setting session (before ++ establishing ++ after) session'

theorem movesData_of_stream {r : Request} {socket : Socket} (h : r.stream? = some socket) :
    r.movesData = true := by
  cases r <;> first | rfl | cases h

theorem EstablishRun.stream? {wait : Nat} {client : IPv4} {target : Target} {events : List Event}
    {outcome : Except TransferError Socket} (h : EstablishRun wait client target events outcome) :
    ∀ event ∈ events, event.request.stream? = none := by
  cases h <;> simp [Request.stream?]

/-- Until the data connection is made no bytes move. -/
theorem notMem_of_stream {wait : Nat} {client : IPv4} {target : Target}
    {before establishing : List Event} {outcome : Except TransferError Socket}
    (before_asks : ∀ event ∈ before, event.request.inquires = true)
    (establish : EstablishRun wait client target establishing outcome) {event : Event}
    {socket : Socket} (hstream : event.request.stream? = some socket) :
    event ∉ before ++ establishing := by
  intro hmem
  rcases List.mem_append.1 hmem with hmem | hmem
  · have hmoves := movesData_of_stream hstream
    rw [movesData_of_inquires (before_asks event hmem)] at hmoves
    cases hmoves
  · rw [establish.stream? event hmem] at hstream
    cases hstream

section Commands

variable {setting : Setting} {session session' : Session} {events more : List Event}
  {argument : Text}

theorem DataRun.cons (h : DataRun setting session events session') {event : Event}
    (asks : event.request.inquires = true) :
    DataRun setting session (event :: events) session' := by
  have hboth : ∀ {before : List Event}, (∀ event ∈ before, event.request.inquires = true) →
      ∀ event' ∈ event :: before, event'.request.inquires = true :=
    fun hbefore => List.forall_mem_cons.2 ⟨asks, hbefore⟩
  cases h with
  | without still left =>
    exact .without (List.forall_mem_cons.2 ⟨movesData_of_inquires asks, still⟩) left
  | failed before_asks establish after_still left =>
    exact .failed (hboth before_asks) establish after_still left
  | connected before_asks establish after_stream left =>
    exact .connected (hboth before_asks) establish after_stream left

theorem DataRun.append (h : DataRun setting session events session')
    (still : ∀ event ∈ more, event.request.movesData = false) {session'' : Session}
    (same : session''.transmission = session'.transmission) :
    DataRun setting session (events ++ more) session'' := by
  cases h with
  | without hstill left =>
    exact .without (fun event hmem => (List.mem_append.1 hmem).elim (hstill event) (still event))
      (same ▸ left)
  | failed before_asks establish after_still left =>
    rw [List.append_assoc]
    refine .failed before_asks establish (fun event hmem => ?_) (same ▸ left)
    exact (List.mem_append.1 hmem).elim (after_still event) (still event)
  | connected before_asks establish after_stream left =>
    rw [List.append_assoc]
    refine .connected before_asks establish (fun event hmem hmoves => ?_) (same ▸ left)
    rcases List.mem_append.1 hmem with hmem | hmem
    · exact after_stream event hmem hmoves
    · rw [still event hmem] at hmoves
      cases hmoves

theorem still_fail {code : Nat} {text : Text} {result : Status × Session}
    (run : Exec (session.fail code text) events result) :
    (∀ event ∈ events, event.request.movesData = false) ∧ result.2 = session := by
  obtain ⟨rfl, rfl⟩ := (plays_fail session code text).eq_of_exec run
  exact ⟨fun event hmem => by rw [List.mem_singleton.1 hmem]; rfl, rfl⟩

/-- An answer and no more. -/
theorem dataRun_fail {code : Nat} {text : Text} {result : Status × Session}
    (run : Exec (session.fail code text) events result) :
    DataRun setting session events result.2 := by
  obtain ⟨hstill, hsame⟩ := still_fail run
  rw [hsame]
  exact .without hstill fun _ h => h

theorem dataRun_withPath {path : Text} {next : Text → Program (Status × Session)}
    {result : Status × Session}
    (hnext : ∀ resolved, Exec (next resolved) events result →
      DataRun setting session events result.2)
    (run : Exec (setting.withPath session path next) events result) :
    DataRun setting session events result.2 := by
  unfold Setting.withPath at run
  split at run
  · exact hnext _ run
  · exact dataRun_fail run

/-- What goes on with the connection moves data on no other, and leaves no transfer but over it. -/
structure Over (socket : Socket) (program : Program (Status × Session)) : Prop where
  stream : program.Conducts (fun _ => True) fun r => r.stream? = some socket
  left : program.Returns fun result => ∀ other, result.2.transmission.socket? = some other →
    other = socket

theorem dataRun_withConnection (hidle : session.isTransferring = false)
    {next : Socket → Program (Status × Session)} (hnext : ∀ socket, Over socket (next socket))
    {result : Status × Session}
    (run : Exec (DataChannel.withConnection setting session next) events result) :
    DataRun setting session events result.2 := by
  obtain ⟨establishing, established, after, rfl, hestablish, hafter⟩ := Exec.bind_iff.1 run
  have hrun := exec_establish hestablish
  have hnone : ∀ event ∈ ([] : List Event), event.request.inquires = true :=
    fun _ hmem => absurd hmem List.not_mem_nil
  cases established with
  | error error =>
    obtain ⟨hstill, hsame⟩ := still_fail hafter
    rw [hsame]
    refine .failed hnone hrun hstill ?_
    rw [Transmission.eq_idle_of_not_isActive hidle]
    rfl
  | ok socket =>
    exact .connected hnone hrun ((hnext socket).stream.moves_of_exec hafter)
      ((hnext socket).left.of_exec hafter)

theorem over_transferFile (hidle : session.isTransferring = false) {socket : Socket}
    (path : Text) (mode : OpenMode) {refusal : String} {transmission : File → Transmission}
    (hsocket : ∀ file, (transmission file).socket? = some socket)
    (hrefusal : (451, refusal) ∈ phrases) :
    Over socket
      (Action.transferFile setting session socket path mode refusal transmission) where
  stream := by
    refine conducts_transferFile (fun _ _ _ => trivial) hidle path mode ?_ ?_ hrefusal
    · intro file file' socket' remaining h bytes
      have hown := hsocket file
      rw [h] at hown
      exact hown
    · intro file file' socket' h limit
      have hown := hsocket file
      rw [h] at hown
      exact hown
  left := by
    refine (returns_transferFile setting session socket path mode _ transmission).mono ?_
    rintro ⟨status, session'⟩ (rfl | ⟨file, now, transmission', hadvances, rfl⟩) other hother
    · rw [Transmission.eq_idle_of_not_isActive hidle] at hother
      cases hother
    · have hown := hadvances.socket? hother
      rw [hsocket file] at hown
      exact (Option.some.inj hown).symm

theorem Over.say {socket : Socket} {program : Program (Status × Session)} (h : Over socket program)
    (code : Nat) (text : Text) : Over socket (session.say code text >>= fun _ => program) where
  stream := Conducts.bind (conducts_reply trivial) fun _ => h.stream
  left := (returns_bind ..).2 ((returns_say ..).2 h.left)

theorem over_listing (hidle : session.isTransferring = false) (socket : Socket) (path : Text)
    (format : ListFormat) :
    Over socket (Listing.send setting session socket path format >>= fun _ =>
      request (.closeSocket socket) >>= fun _ => Program.done (.success, session)) where
  stream := by
    refine (conducts_listingSend (fun _ _ _ => trivial) (fun _ => rfl) path format).bind fun _ => ?_
    exact conducts_plain rfl rfl fun _ => conducts_done _
  left := by
    rw [returns_bind]
    refine returns_of_forall (fun _ => (returns_bind ..).2 ((returns_ask ..).2 fun _ => ?_)) _
    intro other hother
    rw [Transmission.eq_idle_of_not_isActive hidle] at hother
    cases hother

theorem Change.socket? {command : Command} (h : Change setting session argument command session')
    (hcommand : command.usesData = false) {socket : Socket}
    (hsocket : session'.transmission.socket? = some socket) :
    session.transmission.socket? = some socket := by
  cases h with
  | abor => cases hsocket
  | retr | stor => cases hcommand
  | _ => exact hsocket

theorem dataRun_transfers {path : Text} {command : Command} {program : Program (Status × Session)}
    (h : Transfers setting session argument path command program)
    (hidle : session.isTransferring = false) {events : List Event} {result : Status × Session}
    (run : Exec program events result) : DataRun setting session events result.2 := by
  induction h generalizing events with
  | fails => exact dataRun_fail run
  | asks inquires _ ih =>
    obtain ⟨answer, rest, rfl, hrest⟩ := exec_ask_iff.1 run
    refine (ih answer hrest).cons ?_
    cases inquires <;> rfl
  | begins carries _ refused =>
    refine dataRun_withConnection hidle (fun socket => ?_) run
    refine (over_transferFile hidle path _ (fun file => ?_) refused).say _ _
    cases carries <;> rfl

/-- Without a data connection a command moves no data, and at most ends a transfer. -/
theorem dataRun_of_not_usesData {command : Command} {result : Status × Session}
    (hdata : command.usesData = false)
    (hidle : command.duringTransfer = false → session.isTransferring = false)
    (run : Exec (command.run setting session argument) events result) :
    DataRun setting session events result.2 := by
  have hchange := (returns_run setting session argument command).of_exec run
  refine .without (fun event hmem => ?_) fun socket => hchange.socket? hdata
  cases hmoves : event.request.movesData with
  | false => rfl
  | true =>
    have huses := (conducts_run setting session argument command hidle).moves_of_exec run event
      hmem hmoves
    cases hdata.symm.trans huses

theorem dataRun_run {command : Command} {result : Status × Session}
    (hidle : command.duringTransfer = false → session.isTransferring = false)
    (run : Exec (command.run setting session argument) events result) :
    DataRun setting session events result.2 := by
  cases hdata : command.usesData with
  | false => exact dataRun_of_not_usesData hdata hidle run
  | true =>
    have hform := command.form setting session argument
    generalize command.run setting session argument = program at hform run
    cases hform with
    | succeeds brief | fails brief => cases hdata.symm.trans brief
    | consults consults => cases consults <;> cases hdata
    | abor | port | pasv => cases hdata
    | lists lists =>
      have hidle : session.isTransferring = false := by cases lists <;> exact hidle rfl
      refine dataRun_withPath (fun path run => ?_) run
      exact dataRun_withConnection hidle (fun socket => over_listing hidle socket _ _) run
    | transfers transferMode transfers =>
      have hidle := hidle (duringTransfer_of_transferMode transferMode)
      exact dataRun_withPath (fun path run => dataRun_transfers (transfers path) hidle run) run

end Commands

/-! ## Lines -/

section Lines

variable {setting : Setting} {session : Session} {events : List Event} {result : Status × Session}

theorem dataRun_dispatch {raw : Text}
    (run : Exec (Dispatch.dispatch setting session raw) events result) :
    DataRun setting session events result.2 := by
  cases exec_dispatch run with
  | unknown | notLoggedIn | denied | ignored =>
    exact .without (by simp [Request.movesData]) fun _ h => h
  | run _ verdict hrun now =>
    exact (dataRun_run (isTransferring_of_verdict verdict) hrun).append
      (by simp [Request.movesData]) rfl

theorem dataRun_processInput
    (run : Exec (Dispatch.processInput setting session) events result) :
    DataRun setting session events result.2 := by
  cases exec_processInput run with
  | line _ hline =>
    cases dataRun_dispatch hline with
    | without still left => exact .without still left
    | failed before_asks establish after_still left =>
      exact .failed before_asks establish after_still left
    | connected before_asks establish after_stream left =>
      exact .connected before_asks establish after_stream left
  | overlong | nothing => exact .without (by simp [Request.movesData]) fun _ h => h

end Lines

end Ftp
