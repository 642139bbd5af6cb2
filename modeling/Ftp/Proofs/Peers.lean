import Ftp.Proofs.Exclusion
import Ftp.Proofs.Target

/-!
# Whom a server talks to

Where a deployment judges clients by a fixed rule, every client that has a session complies with it,
and so does every client that is accepted for data. A data connection that is opened goes to the
client of the session, at the port that it has named, whatever address it gave with it.

* `exec_stranded`: a command that needs a data connection while there is no target;
* `exec_dispatch_rejected`: a `PORT` that fails;
* `DataRun.obtained`, `Reachable.supplied`: where a data connection comes from;
* `vetted_of_reachable`: all this over every history.
-/

namespace Ftp

open Program

/-! ## Without a target -/

/-- The runs of a command that needs a data connection in a session without a target: it is
answered that there is none, unless its path is no good. -/
inductive Stranded (setting : Setting) (session : Session) (argument : Text) :
    Command → List Event → Prop
  | invalid {command : Command} {error : PathError}
    (resolve : setting.resolve session (command.target session argument) true = .error error) :
    Stranded setting session argument command [said session.control 550 "Invalid path."]
  | missing {path : Text} (resolve : setting.resolve session argument true = .ok path)
    (error : IoError) :
    Stranded setting session argument .retr
      [⟨.stat path, .error error⟩, said session.control 550 "Failed to open file."]
  | irregular {path : Text} {info : FileInfo}
    (resolve : setting.resolve session argument true = .ok path) (kind : info.kind ≠ .file) :
    Stranded setting session argument .retr
      [⟨.stat path, .ok info⟩, said session.control 550 "Failed to open file."]
  | withheld {path : Text} {info : FileInfo}
    (resolve : setting.resolve session argument true = .ok path) (kind : info.kind = .file) :
    Stranded setting session argument .retr
      [⟨.stat path, .ok info⟩,
        ⟨.mayRetrieve session.remote.ip (Action.accountName setting session) path, false⟩,
        said session.control 550 "Failed to open file."]
  | download {path : Text} {info : FileInfo}
    (resolve : setting.resolve session argument true = .ok path) (kind : info.kind = .file) :
    Stranded setting session argument .retr
      [⟨.stat path, .ok info⟩,
        ⟨.mayRetrieve session.remote.ip (Action.accountName setting session) path, true⟩,
        said session.control 425 "Cannot open data connection."]
  | other {command : Command} {path : Text} (hretr : command ≠ .retr)
    (resolve : setting.resolve session (command.target session argument) true = .ok path) :
    Stranded setting session argument command
      [said session.control 425 "Cannot open data connection."]

section Lines

variable {setting : Setting} {session session' : Session} {argument raw : Text}
  {events : List Event} {result : Status × Session}

theorem exec_withPath {path : Text} {next : Text → Program (Status × Session)}
    (run : Exec (setting.withPath session path next) events result) :
    (∃ resolved, setting.resolve session path true = .ok resolved ∧
        Exec (next resolved) events result) ∨
      ∃ error, setting.resolve session path true = .error error ∧
        events = [said session.control 550 "Invalid path."] := by
  unfold Setting.withPath at run
  split at run
  · rename_i resolved hresolve
    exact .inl ⟨resolved, hresolve, run⟩
  · rename_i error hresolve
    exact .inr ⟨error, hresolve, ((plays_fail ..).eq_of_exec run).1⟩

theorem exec_withConnection_of_target (h : session.target = .unset ∨ session.target = .lost)
    {next : Socket → Program (Status × Session)}
    (run : Exec (DataChannel.withConnection setting session next) events result) :
    events = [said session.control 425 "Cannot open data connection."] := by
  rw [withConnection_of_target h] at run
  exact ((plays_fail ..).eq_of_exec run).1

theorem exec_stranded {command : Command} (hdata : command.usesData = true)
    (h : session.target = .unset ∨ session.target = .lost)
    (run : Exec (command.run setting session argument) events result) :
    Stranded setting session argument command events := by
  cases command with
  | list | nlst | mlsd | stor =>
    rcases exec_withPath run with ⟨path, hresolve, hrun⟩ | ⟨error, hresolve, rfl⟩
    · obtain rfl := exec_withConnection_of_target h hrun
      exact .other (by decide) hresolve
    · exact .invalid hresolve
  | retr =>
    rcases exec_withPath run with ⟨path, hresolve, hrun⟩ | ⟨error, hresolve, rfl⟩
    · simp only [request, ask_bind, done_bind, exec_ask_iff] at hrun
      obtain ⟨info, _, rfl, hinfo⟩ := hrun
      cases info with
      | error error =>
        obtain ⟨rfl, -⟩ := (plays_fail ..).eq_of_exec hinfo
        exact .missing hresolve error
      | ok info =>
        simp only [] at hinfo
        split at hinfo
        · rename_i hkind
          obtain ⟨may, _, rfl, hmay⟩ := exec_ask_iff.1 hinfo
          cases may with
          | false =>
            obtain ⟨rfl, -⟩ := (plays_fail ..).eq_of_exec hmay
            exact .withheld hresolve hkind
          | true =>
            obtain rfl := exec_withConnection_of_target h hmay
            exact .download hresolve hkind
        · rename_i hkind
          obtain ⟨rfl, -⟩ := (plays_fail ..).eq_of_exec hinfo
          exact .irregular hresolve hkind
    · exact .invalid hresolve
  | _ => cases hdata

/-- A command that has run leaves the session active as of now. -/
theorem exec_dispatch_run {command : Command}
    (find : Command.find? (Command.upperVerb raw) setting.config.extensions = some command)
    (verdict : Dispatch.verdict setting session command = .run)
    (run : Exec (Dispatch.dispatch setting session raw) events result) :
    ∃ ran session' now, events = ran ++ [⟨.unixTime, now⟩] ∧
      Exec (command.run setting session (command.argument (Command.upperVerb raw))) ran
        (result.1, session') ∧
      result.2 = { session' with lastCommand := now } := by
  cases exec_dispatch run with
  | unknown find' => cases find.symm.trans find'
  | notLoggedIn find' verdict' | denied find' verdict' | ignored find' verdict' =>
    cases find.symm.trans find'
    cases verdict.symm.trans verdict'
  | run find' _ hrun now =>
    cases find.symm.trans find'
    exact ⟨_, _, now, rfl, hrun, rfl⟩

/-- A `PORT` that is not accepted is answered and otherwise forgotten. -/
theorem exec_dispatch_rejected
    (find : Command.find? (Command.upperVerb raw) setting.config.extensions = some .port)
    (rejected : (session.spoken setting raw).setup? events = none)
    (run : Exec (Dispatch.dispatch setting session raw) events result) :
    (∀ event ∈ events, IsAside session.control event) ∧
      ∃ now, result.2 = { session with lastCommand := now } := by
  cases exec_dispatch run with
  | unknown find' => cases find.symm.trans find'
  | notLoggedIn | denied => exact ⟨fun _ => isAside_of_mem_said, session.lastCommand, rfl⟩
  | ignored => exact ⟨fun _ hmem => absurd hmem List.not_mem_nil, session.lastCommand, rfl⟩
  | run find' _ hrun now =>
    cases find.symm.trans find'
    rw [setup?_port find] at rejected
    simp only [Command.run, Action.port] at hrun
    split at hrun
    · obtain ⟨rfl, hsame⟩ := (plays_fail ..).eq_of_exec hrun
      cases hsame
      refine ⟨fun event hmem => ?_, now, rfl⟩
      exact (List.mem_append.1 hmem).elim isAside_of_mem_said isAside_of_mem_clock
    · rename_i port hport
      obtain ⟨_, rfl, hsucceed⟩ := (plays_closePassive session).of_bind hrun
      obtain ⟨rfl, -⟩ := (plays_succeed ..).eq_of_exec hsucceed
      simp [hport, hasReply_append] at rejected

end Lines

/-! ## Data connections -/

/-- The deployment admits a client exactly if it complies. -/
def Event.Judges (complies : IPv4 → Bool) : Event → Prop
  | ⟨.admits client, answer⟩ => answer = complies client
  | _ => True

instance (complies : IPv4 → Bool) : ∀ event : Event, Decidable (event.Judges complies) := by
  rintro ⟨request, answer⟩
  cases request <;> unfold Event.Judges <;> infer_instance

/-- The session has obtained the data connection in the events. -/
inductive Obtained (complies : IPv4 → Bool) (session : Session) (events : List Event)
    (socket : Socket) : Prop
  | accepted {listener : Socket} {peer : Endpoint} {wait : Nat}
    (target : session.target = .listener listener)
    (own : session.passiveListener = some listener)
    (event : ⟨.accept listener wait, .ok (socket, peer)⟩ ∈ events)
    (complying : complies peer.ip = true)
  | connected {port : UInt16} {wait : Nat} (target : session.target = .client port)
    (nonzero : port ≠ 0)
    (event : ⟨.connect ⟨session.remote.ip, port⟩ wait, .ok socket⟩ ∈ events)

/-- The session of the slot has obtained the data connection since it was admitted. -/
def Supplied (complies : IPv4 → Bool) (slot : Nat) (life : List Entry) (socket : Socket) : Prop :=
  ∃ entry ∈ life, entry.deed = .serve slot ∧
    ∃ session, entry.before.sessions.get? slot = some session ∧
      Obtained complies session entry.events socket

section Connections

variable {complies : IPv4 → Bool} {setting : Setting} {session session' : Session} {wait : Nat}
  {events more before after : List Event} {event : Event} {socket : Socket}

theorem Obtained.mono (h : Obtained complies session events socket)
    (hsub : ∀ event ∈ events, event ∈ more) : Obtained complies session more socket := by
  cases h with
  | accepted target own event complying => exact .accepted target own (hsub _ event) complying
  | connected target nonzero event => exact .connected target nonzero (hsub _ event)

theorem passiveListener_of_target {listener : Socket} (h : session.target = .listener listener) :
    session.passiveListener = some listener := by
  unfold Session.target at h
  split at h
  · split at h
    · cases h
      assumption
    · cases h
  · split at h <;> cases h

theorem ne_zero_of_target {port : UInt16} (h : session.target = .client port) : port ≠ 0 := by
  unfold Session.target at h
  split at h
  · split at h <;> cases h
  · split at h
    · cases h
    · cases h
      assumption

theorem EstablishRun.obtained {target : Target} (htarget : session.target = target)
    (h : EstablishRun wait session.remote.ip target events (.ok socket))
    (judges : ∀ event ∈ events, event.Judges complies) :
    Obtained complies session events socket := by
  cases h with
  | accepted listener socket peer =>
    have hcomplies : true = complies peer.ip := judges ⟨.admits peer.ip, true⟩ (by simp)
    exact .accepted htarget (passiveListener_of_target htarget) List.mem_cons_self hcomplies.symm
  | connected port socket =>
    exact .connected htarget (ne_zero_of_target htarget) List.mem_cons_self

/-- The event makes a connection, or fails to. -/
def Request.isMeeting : Request → Bool
  | .accept _ _ | .connect _ _ => true
  | _ => false

/-- A connection is made as the target of the session says. -/
inductive Meets (session : Session) : Request → Prop
  | accept {listener : Socket} (target : session.target = .listener listener) (wait : Nat) :
    Meets session (.accept listener wait)
  | connect {port : UInt16} (target : session.target = .client port) (nonzero : port ≠ 0)
    (wait : Nat) : Meets session (.connect ⟨session.remote.ip, port⟩ wait)

theorem isMeeting_of_stream {r : Request} (h : r.stream? = some socket) : r.isMeeting = false := by
  cases r <;> first | rfl | cases h

theorem movesData_of_isMeeting {r : Request} (h : r.isMeeting = true) : r.movesData = true := by
  cases r <;> first | rfl | cases h

theorem EstablishRun.meets {target : Target} (htarget : session.target = target)
    {outcome : Except TransferError Socket}
    (h : EstablishRun wait session.remote.ip target events outcome) :
    ∀ event ∈ events, event.request.isMeeting = true → Meets session event.request := by
  intro event hmem hmeeting
  cases h <;> simp only [List.mem_cons, List.not_mem_nil, or_false] at hmem
  case nobody => exact hmem ▸ .accept htarget _
  case refused | connected => exact hmem ▸ .connect htarget (ne_zero_of_target htarget) _
  case rejected =>
    rcases hmem with rfl | rfl | rfl
    · exact .accept htarget _
    · cases hmeeting
    · cases hmeeting
  case accepted =>
    rcases hmem with rfl | rfl
    · exact .accept htarget _
    · cases hmeeting

theorem DataRun.meets (h : DataRun setting session events session') :
    ∀ event ∈ events, event.request.isMeeting = true → Meets session event.request := by
  intro event hmem hmeeting
  have hmoves := movesData_of_isMeeting hmeeting
  cases h with
  | without still => rw [still event hmem] at hmoves; cases hmoves
  | failed before_asks establish after_still =>
    rcases List.mem_append.1 hmem with hmem | hmem
    · rcases List.mem_append.1 hmem with hmem | hmem
      · rw [movesData_of_inquires (before_asks event hmem)] at hmoves; cases hmoves
      · exact establish.meets rfl event hmem hmeeting
    · rw [after_still event hmem] at hmoves; cases hmoves
  | connected before_asks establish after_stream =>
    rcases List.mem_append.1 hmem with hmem | hmem
    · rcases List.mem_append.1 hmem with hmem | hmem
      · rw [movesData_of_inquires (before_asks event hmem)] at hmoves; cases hmoves
      · exact establish.meets rfl event hmem hmeeting
    · rw [isMeeting_of_stream (after_stream event hmem hmoves)] at hmeeting
      cases hmeeting

/-- Whatever moves bytes does so on a connection that has been made before in the same run. -/
theorem DataRun.obtained (h : DataRun setting session events session')
    (judges : ∀ event ∈ events, event.Judges complies) (hevents : events = before ++ event :: after)
    (hstream : event.request.stream? = some socket) :
    Obtained complies session before socket := by
  have hmoves := movesData_of_stream hstream
  subst hevents
  generalize hall : before ++ event :: after = all at h
  cases h with
  | without still => rw [still event (by simp [← hall])] at hmoves; cases hmoves
  | failed before_asks establish after_still =>
    have hmem := hall ▸ (by simp : event ∈ before ++ event :: after)
    rcases List.mem_append.1 hmem with hmem | hmem
    · exact absurd hmem (notMem_of_stream before_asks establish hstream)
    · rw [after_still event hmem] at hmoves; cases hmoves
  | @connected first establishing last _ other before_asks establish after_stream =>
    -- Until the connection is made no bytes move, so that the event comes after that.
    have hmem := notMem_of_stream before_asks establish hstream
    obtain ⟨middle, rfl, rfl⟩ := exists_of_notMem_left hall hmem
    rw [after_stream event (by simp) hmoves] at hstream
    cases hstream
    refine (establish.obtained rfl fun event hmem => judges event ?_).mono ?_
    · simp [hmem]
    · exact fun event hmem => by simp [hmem]

/-- The transfer that is left goes over a connection that was there before, or has been made. -/
theorem DataRun.supplied (h : DataRun setting session events session')
    (judges : ∀ event ∈ events, event.Judges complies)
    (hsocket : session'.transmission.socket? = some socket) :
    session.transmission.socket? = some socket ∨ Obtained complies session events socket := by
  cases h with
  | without still left => exact .inl (left socket hsocket)
  | failed before_asks establish after_still left =>
    rw [left] at hsocket
    cases hsocket
  | connected before_asks establish after_stream left =>
    rw [left socket hsocket]
    refine .inr ((establish.obtained rfl fun event hmem => judges event ?_).mono ?_)
    · simp [hmem]
    · exact fun event hmem => by simp [hmem]

/-- What follows once the peer is known not to comply: the connection is closed, before any data
moves. -/
def TurnedAway (socket : Socket) (peer : Endpoint) (after : List Event) : Prop :=
  ∃ rest, after = ⟨.admits peer.ip, false⟩ :: ⟨.closeSocket socket, ()⟩ :: rest ∧
    ∀ event ∈ rest, event.request.movesData = false

theorem eq_of_isMeeting {first : Event} {rest : List Event}
    (h : first :: rest = before ++ event :: after)
    (hrest : ∀ event ∈ rest, event.request.isMeeting = false)
    (hmeeting : event.request.isMeeting = true) : first = event ∧ rest = after := by
  have hmem : event ∉ rest := fun hmem => by
    rw [hrest event hmem] at hmeeting
    cases hmeeting
  exact ((List.append_cons_inj_of_notMem List.not_mem_nil hmem).1 h).2

variable {listener : Socket} {peer : Endpoint}

theorem AcceptRun.turnedAway {table table' : SessionTable} {control : Socket}
    (h : AcceptRun control table events table') (judges : ∀ event ∈ events, event.Judges complies)
    (hevents : events = before ++ ⟨.accept listener wait, .ok (socket, peer)⟩ :: after)
    (hpeer : complies peer.ip = false) : TurnedAway socket peer after := by
  have hadmitted : ∀ client, (⟨.admits client, true⟩ : Event) ∈ events →
      complies client = true := fun client hmem => (judges _ hmem).symm
  cases h with
  | nobody error => cases (eq_of_isMeeting hevents (by simp) rfl).1
  | rejected control remote =>
    obtain ⟨hfirst, rfl⟩ := eq_of_isMeeting hevents (by simp [Request.isMeeting]) rfl
    cases hfirst
    exact ⟨[], rfl, by simp⟩
  | surplus control remote now | welcomed insert =>
    obtain ⟨hfirst, rfl⟩ := eq_of_isMeeting hevents (by simp [Request.isMeeting]) rfl
    cases hfirst
    rw [hadmitted peer.ip (by simp)] at hpeer
    cases hpeer

theorem EstablishRun.turnedAway {target : Target} {client : IPv4} {limit : Nat}
    {outcome : Except TransferError Socket}
    (h : EstablishRun limit client target events outcome)
    (judges : ∀ event ∈ events, event.Judges complies)
    (hevents : events = before ++ ⟨.accept listener wait, .ok (socket, peer)⟩ :: after)
    (hpeer : complies peer.ip = false) :
    outcome = .error (.clientRejected peer) ∧
      after = [⟨.admits peer.ip, false⟩, ⟨.closeSocket socket, ()⟩] := by
  cases h with
  | unset | lost => simp at hevents
  | nobody | refused | connected => cases (eq_of_isMeeting hevents (by simp) rfl).1
  | rejected =>
    obtain ⟨hfirst, rfl⟩ := eq_of_isMeeting hevents (by simp [Request.isMeeting]) rfl
    cases hfirst
    exact ⟨rfl, rfl⟩
  | accepted =>
    obtain ⟨hfirst, rfl⟩ := eq_of_isMeeting hevents (by simp [Request.isMeeting]) rfl
    cases hfirst
    have hcomplies : true = complies peer.ip := judges ⟨.admits peer.ip, true⟩ (by simp)
    rw [← hcomplies] at hpeer
    cases hpeer

theorem DataRun.turnedAway (h : DataRun setting session events session')
    (judges : ∀ event ∈ events, event.Judges complies)
    (hevents : events = before ++ ⟨.accept listener wait, .ok (socket, peer)⟩ :: after)
    (hpeer : complies peer.ip = false) : TurnedAway socket peer after := by
  subst hevents
  generalize hall : before ++ ⟨.accept listener wait, .ok (socket, peer)⟩ :: after = all
    at h judges
  have hstill : ∀ {part : List Event}, (∀ event ∈ part, event.request.movesData = false) →
      (⟨.accept listener wait, .ok (socket, peer)⟩ : Event) ∉ part :=
    fun still hmem => Bool.noConfusion (still _ hmem)
  have hasks : ∀ {part : List Event}, (∀ event ∈ part, event.request.inquires = true) →
      (⟨.accept listener wait, .ok (socket, peer)⟩ : Event) ∉ part :=
    fun asks hmem => Bool.noConfusion (asks _ hmem)
  cases h with
  | without still => exact absurd (hall ▸ by simp) (hstill still)
  | @failed first establishing last _ error before_asks establish after_still =>
    rw [List.append_assoc] at hall
    obtain ⟨middle, rfl, hrest⟩ := exists_of_notMem_left hall (hasks before_asks)
    obtain ⟨closing, rfl, hestablishing⟩ := exists_of_notMem_right hrest.symm (hstill after_still)
    obtain ⟨-, rfl⟩ := establish.turnedAway (fun event hmem => judges event (by simp [hmem]))
      hestablishing hpeer
    exact ⟨last, rfl, after_still⟩
  | @connected first establishing last _ other before_asks establish after_stream =>
    rw [List.append_assoc] at hall
    obtain ⟨middle, rfl, hrest⟩ := exists_of_notMem_left hall (hasks before_asks)
    obtain ⟨closing, rfl, hestablishing⟩ :=
      exists_of_notMem_right hrest.symm fun hmem => nomatch after_stream _ hmem rfl
    obtain ⟨herror, -⟩ := establish.turnedAway (fun event hmem => judges event (by simp [hmem]))
      hestablishing hpeer
    cases herror

end Connections

/-! ## Over a history -/

section Histories

variable {complies : IPv4 → Bool} {history older : List Entry} {entry : Entry} {server : Server}
  {slot : Nat} {session : Session} {socket : Socket}

/-- Every client with a session complies. -/
theorem Reachable.complies_remote (h : Reachable history server)
    (judges : ∀ entry ∈ history, ∀ event ∈ entry.events, event.Judges complies)
    (get : server.sessions.get? slot = some session) : complies session.remote.ip = true := by
  refine h.session_induction (P := fun history _ session =>
    (∀ entry ∈ history, ∀ event ∈ entry.events, event.Judges complies) →
      complies session.remote.ip = true) ?_ ?_ get judges
  · intro older entry server session hdeed hfree run get _ judges
    rw [hdeed] at run
    obtain ⟨listener, hevents⟩ := exec_accept_admitted run hfree get
    have hadmits := judges entry List.mem_cons_self ⟨.admits session.remote.ip, true⟩
      (by simp [hevents])
    exact hadmits.symm
  · intro older entry server before after _ ih _ _ _ hbecomes judges
    rw [hbecomes.sameClient.remote]
    exact ih fun entry hmem => judges entry (List.mem_cons_of_mem _ hmem)

theorem Supplied.cons {life : List Entry} (h : Supplied complies slot life socket) :
    Supplied complies slot (entry :: life) socket := by
  obtain ⟨earlier, hmem, h⟩ := h
  exact ⟨earlier, List.mem_cons_of_mem _ hmem, h⟩

theorem Becomes.socket? {setting : Setting} {session session' : Session} {deed : Deed}
    (h : Becomes setting session deed session') (hdeed : deed ≠ .serve session.slot)
    (hsocket : session'.transmission.socket? = some socket) :
    session.transmission.socket? = some socket := by
  cases h with
  | heard => exact absurd rfl hdeed
  | advanced hadvances => exact hadvances.socket? hsocket
  | kept | received => exact hsocket

/-- The data connection of a transfer that goes on was obtained by the session. -/
theorem Reachable.supplied (h : Reachable history server)
    (judges : ∀ entry ∈ history, ∀ event ∈ entry.events, event.Judges complies)
    (get : server.sessions.get? slot = some session)
    (hsocket : session.transmission.socket? = some socket) :
    Supplied complies slot (lifetime slot history) socket := by
  have hlife := h.lifetime_induction
    (P := fun life session => (∀ entry ∈ life, ∀ event ∈ entry.events, event.Judges complies) →
      ∀ socket, session.transmission.socket? = some socket → Supplied complies slot life socket)
    (fun _ _ _ _ _ socket hsocket => by cases hsocket) ?_ get
  · exact hlife (fun entry hmem => judges entry (mem_of_mem_lifetime hmem)) socket hsocket
  intro older entry session session' server' hreachable ih hget run get' hbecomes judges socket
    hsocket
  -- Only a line gives a session another data connection; after any other deed it has the old one.
  have hearlier : session.transmission.socket? = some socket →
      Supplied complies slot (entry :: lifetime slot older) socket := fun hsocket =>
    (ih (fun entry hmem => judges entry (List.mem_cons_of_mem _ hmem)) socket hsocket).cons
  by_cases hdeed : entry.deed = .serve slot
  · have hserving := run
    rw [hdeed] at hserving
    obtain ⟨status, served, hserve, hserved⟩ := exec_serve hreachable.placed hget hserving
    rw [hserved] at get'
    cases get'
    rcases (dataRun_processInput hserve).supplied (judges entry List.mem_cons_self) hsocket
      with hkept | hobtained
    · exact hearlier hkept
    · exact ⟨entry, List.mem_cons_self, hdeed, session, hget, hobtained⟩
  · have hslot := hreachable.placed slot session hget
    exact hearlier (hbecomes.socket? (hslot.symm ▸ hdeed) hsocket)

section Deeds

variable {server' : Server} {deed : Deed} {events before after : List Event} {event : Event}
  {raw : Text} {input : LineBuffer}

theorem exec_serve_dataRun {server server' : Server} {events : List Event} {event : Event}
    (placed : server.sessions.Placed) (run : Exec (server.perform (.serve slot)) events server')
    (hmem : event ∈ events) :
    ∃ session session', server.sessions.get? slot = some session ∧
      DataRun server.setting session events session' := by
  cases hget : server.sessions.get? slot with
  | none =>
    obtain ⟨rfl, -⟩ := eq_of_perform_vacant rfl hget run
    cases hmem
  | some session =>
    obtain ⟨status, session', hserve, -⟩ := exec_serve placed hget run
    exact ⟨session, session', rfl, dataRun_processInput hserve⟩

theorem exec_processInput_line {setting : Setting} {raw : Text} {input : LineBuffer}
    {events : List Event} {result : Status × Session}
    (next : session.input.nextLine? = some (raw, input))
    (run : Exec (Dispatch.processInput setting session) events result) :
    Exec (Dispatch.dispatch setting { session with input } raw) events result := by
  cases exec_processInput run with
  | line next' hline =>
    cases next.symm.trans next'
    exact hline
  | overlong none | nothing none => cases next.symm.trans none

/-- A connection is made at the control listener, or as the target of a session says. -/
theorem exec_meets (placed : server.sessions.Placed)
    (run : Exec (server.perform deed) events server') (hmem : event ∈ events)
    (hmeeting : event.request.isMeeting = true) :
    (deed = .accept ∧ ∃ listener wait,
      server.listener = some listener ∧ event.request = .accept listener wait) ∨
    ∃ slot session, deed = .serve slot ∧ server.sessions.get? slot = some session ∧
      Meets session event.request := by
  have hmoves := (conducts_perform placed deed).moves_of_exec run event hmem
    (movesData_of_isMeeting hmeeting)
  generalize hrequest : event.request = r at hmoves hmeeting
  cases hmoves with
  | accept listener wait =>
    refine .inl ⟨rfl, ?_⟩
    rcases exec_accept run with ⟨rfl, -⟩ | ⟨control, sessions, hcontrol, haccept, -⟩
    · cases hmem
    · refine ⟨control, 0, hcontrol, ?_⟩
      have hfirst : ∀ event ∈ events, event.request.isMeeting = true →
          event.request = .accept control 0 := by
        cases haccept <;> simp [Request.isMeeting]
      rw [← hrequest]
      exact hfirst event hmem (hrequest ▸ hmeeting)
  | advance get carries stream =>
    rw [isMeeting_of_stream stream] at hmeeting
    cases hmeeting
  | receive => cases hmeeting
  | serve slot =>
    obtain ⟨session, session', hget, hdata⟩ := exec_serve_dataRun placed run hmem
    exact .inr ⟨slot, session, rfl, hget,
      hrequest ▸ hdata.meets event hmem (hrequest ▸ hmeeting)⟩

/-- Bytes move on the control connection, or on a data connection that was obtained before. -/
theorem exec_stream (h : Reachable older server)
    (judged : ∀ entry ∈ older, ∀ event ∈ entry.events, event.Judges complies)
    (judges : ∀ event ∈ events, event.Judges complies)
    (run : Exec (server.perform deed) events server') (hevents : events = before ++ event :: after)
    (hstream : event.request.stream? = some socket) :
    ∃ slot session, server.sessions.get? slot = some session ∧
      ((deed = .receive slot ∧ socket = session.control) ∨
        (deed = .advance slot ∧ Supplied complies slot (lifetime slot older) socket) ∨
        (deed = .serve slot ∧ Obtained complies session before socket)) := by
  have hmem : event ∈ events := hevents ▸ List.mem_append_cons_self
  have hmoves := (conducts_perform h.placed deed).moves_of_exec run event hmem
    (movesData_of_stream hstream)
  have hrequest := hstream
  generalize event.request = r at hmoves hrequest
  cases hmoves with
  | accept => cases hrequest
  | advance get carries stream =>
    rw [hrequest] at stream
    cases stream
    exact ⟨_, _, get, .inr (.inl ⟨rfl, h.supplied judged get carries⟩)⟩
  | receive get limit =>
    cases hrequest
    exact ⟨_, _, get, .inl ⟨rfl, rfl⟩⟩
  | serve slot =>
    obtain ⟨session, session', hget, hdata⟩ := exec_serve_dataRun h.placed run hmem
    exact ⟨slot, session, hget, .inr (.inr ⟨rfl, hdata.obtained judges hevents hstream⟩)⟩

theorem exec_turnedAway {listener : Socket} {wait : Nat} {peer : Endpoint}
    (placed : server.sessions.Placed) (judges : ∀ event ∈ events, event.Judges complies)
    (run : Exec (server.perform deed) events server')
    (hevents : events = before ++ ⟨.accept listener wait, .ok (socket, peer)⟩ :: after)
    (hpeer : complies peer.ip = false) : TurnedAway socket peer after := by
  have hmem : ⟨.accept listener wait, .ok (socket, peer)⟩ ∈ events :=
    hevents ▸ List.mem_append_cons_self
  rcases exec_meets placed run hmem rfl with ⟨rfl, -⟩ | ⟨slot, session, rfl, -⟩
  · rcases exec_accept run with ⟨rfl, -⟩ | ⟨control, sessions, -, haccept, -⟩
    · cases hmem
    · exact haccept.turnedAway judges hevents hpeer
  · obtain ⟨session, session', -, hdata⟩ := exec_serve_dataRun placed run hmem
    exact hdata.turnedAway judges hevents hpeer

end Deeds

/-- What the latest deed, which leads to this server, and its sessions have to do with their
peers. -/
structure Vetted (complies : IPv4 → Bool) (entry : Entry) (older : List Entry) (server : Server) :
    Prop where
  /-- Every client with a session complies. -/
  remote : ∀ slot session, server.sessions.get? slot = some session →
    complies session.remote.ip = true
  /-- The last `PORT` or `PASV` that succeeded says where data connections come from. -/
  target : ∀ slot session, server.sessions.get? slot = some session →
    session.target = Target.replay (setupsIn slot (entry :: older)) ∧
      session.target.Decided (setupsIn slot (entry :: older))
  /-- Connections are made as the target says. -/
  meets : ∀ event ∈ entry.events, event.request.isMeeting = true →
    (entry.deed = .accept ∧ ∃ listener wait,
      entry.before.listener = some listener ∧ event.request = .accept listener wait) ∨
    ∃ slot session, entry.deed = .serve slot ∧
      entry.before.sessions.get? slot = some session ∧ Meets session event.request
  /-- Bytes move on the control connection, or on a data connection that the session has obtained
  before. -/
  stream : ∀ before event after socket, entry.events = before ++ event :: after →
    event.request.stream? = some socket →
    ∃ slot session, entry.before.sessions.get? slot = some session ∧
      ((entry.deed = .receive slot ∧ socket = session.control) ∨
        (entry.deed = .advance slot ∧ Supplied complies slot (lifetime slot older) socket) ∨
        (entry.deed = .serve slot ∧ Obtained complies session before socket))
  /-- A peer who does not comply is turned away before any data moves. -/
  turnedAway : ∀ before listener wait socket peer after,
    entry.events = before ++ ⟨.accept listener wait, .ok (socket, peer)⟩ :: after →
    complies peer.ip = false → TurnedAway socket peer after
  /-- Without a target nothing is accepted or connected. -/
  stranded : ∀ slot session raw input command, entry.deed = .serve slot →
    entry.before.sessions.get? slot = some session →
    session.input.nextLine? = some (raw, input) →
    (session.target = .unset ∨ session.target = .lost) →
    Command.find? (Command.upperVerb raw) entry.before.config.extensions = some command →
    command.usesData = true →
    Dispatch.verdict entry.before.setting { session with input } command = .run →
    ∃ ran now, entry.events = ran ++ [⟨.unixTime, now⟩] ∧
      Stranded entry.before.setting { session with input }
        (command.argument (Command.upperVerb raw)) command ran
  /-- A `PORT` that does not succeed changes nothing. -/
  rejected : ∀ slot session raw input, entry.deed = .serve slot →
    entry.before.sessions.get? slot = some session →
    session.input.nextLine? = some (raw, input) →
    Command.find? (Command.upperVerb raw) entry.before.config.extensions = some .port →
    entry.setup? slot = none →
    (∀ event ∈ entry.events, IsAside session.control event) ∧
      ∃ now, server.sessions.get? slot = some { session with input, lastCommand := now }

/-- Whatever has happened to a server that judges its clients by a rule, it talks only to those who
comply and to whom its sessions have named. -/
theorem vetted_of_reachable (h : Reachable (entry :: older) server)
    (judges : ∀ past ∈ entry :: older, ∀ event ∈ past.events, event.Judges complies) :
    Vetted complies entry older server := by
  obtain ⟨hreachable, run⟩ := h.of_cons
  have placed := hreachable.placed
  have hjudges := judges entry List.mem_cons_self
  have hjudged : ∀ past ∈ older, ∀ event ∈ past.events, event.Judges complies :=
    fun past hmem => judges past (List.mem_cons_of_mem _ hmem)
  exact
    { remote slot session hget := h.complies_remote judges hget
      target slot session hget := by
        have htarget := h.target_eq hget
        exact ⟨htarget, htarget ▸ Target.decided_replay _⟩
      meets event hmem hmeeting := exec_meets placed run hmem hmeeting
      stream before event after socket hevents hstream :=
        exec_stream hreachable hjudged hjudges run hevents hstream
      turnedAway before listener wait socket peer after hevents hpeer :=
        exec_turnedAway placed hjudges run hevents hpeer
      stranded slot session raw input command hdeed hget hnext htarget hfind hdata hverdict := by
        rw [hdeed] at run
        obtain ⟨status, session', hserve, -⟩ := exec_serve placed hget run
        obtain ⟨ran, _, now, hevents, hrun, -⟩ :=
          exec_dispatch_run hfind hverdict (exec_processInput_line hnext hserve)
        exact ⟨ran, now, hevents, exec_stranded hdata htarget hrun⟩
      rejected slot session raw input hdeed hget hnext hfind hsetup := by
        rw [Entry.setup?, Entry.spoken?, if_pos hdeed, hget, Option.bind_some, hnext] at hsetup
        rw [hdeed] at run
        obtain ⟨status, session', hserve, hserved⟩ := exec_serve placed hget run
        obtain ⟨haside, now, hsame⟩ := @exec_dispatch_rejected _ { session with input } _ _ _ hfind
          hsetup (exec_processInput_line hnext hserve)
        exact ⟨haside, now, hserved.trans (congrArg some hsame)⟩ }

/-- A client opens a passive listener, names a port of its own together with the address of somebody
else, and downloads a file. -/
def bouncing : List Entry × Server :=
  visit {} { name := "ada", password := [], root := "/srv/ftp", rights := .all }
    { nodes := [("/srv/ftp/f".toList,
        { kind := .file, data := [1, 2, 3], modified := .ofUnix 0 })] }
    "USER ada\r\nPASS x\r\nPASV\r\nPORT 10,0,0,9,19,137\r\nRETR f\r\n".toList
    (List.replicate 5 (.serve 0))

theorem vetted_of_reachable_bouncing :
    ∃ entry older, Reachable (entry :: older) bouncing.2 ∧
      (∀ past ∈ entry :: older, ∀ event ∈ past.events,
        event.Judges fun client => client = .localhost) ∧
      entry.deed = .serve 0 ∧
      (entry.before.sessions.get? 0).map Session.target = some (.client 5001) ∧
      (∃ event ∈ entry.events, event.request.stream? = some ⟨3⟩) ∧
      Vetted (fun client => client = .localhost) entry older bouncing.2 := by
  obtain ⟨entry, hentry⟩ : ∃ entry, bouncing.1.head? = some entry :=
    Option.isSome_iff_exists.1 (by decide +kernel)
  have hhistory : bouncing.1 = entry :: bouncing.1.tail := (List.cons_head?_tail hentry).symm
  have hreachable : Reachable (entry :: bouncing.1.tail) bouncing.2 := by
    rw [← hhistory]
    exact reachable_visit _ _ _ _ _
  have hjudges : ∀ past ∈ entry :: bouncing.1.tail, ∀ event ∈ past.events,
      event.Judges fun client => client = .localhost := by
    rw [← hhistory]
    decide +kernel
  have hlast : ∀ last ∈ bouncing.1.head?, last.deed = .serve 0 ∧
      (last.before.sessions.get? 0).map Session.target = some (.client 5001) ∧
      ∃ event ∈ last.events, event.request.stream? = some ⟨3⟩ := by
    decide +kernel
  obtain ⟨hdeed, htarget, hstream⟩ := hlast entry hentry
  exact ⟨entry, _, hreachable, hjudges, hdeed, htarget, hstream,
    vetted_of_reachable hreachable hjudges⟩

end Histories

end Ftp
