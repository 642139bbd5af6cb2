import Ftp.Proofs.Course
import Ftp.Proofs.Peers
import Ftp.Proofs.Stream

/-!
# Passive listeners

A session binds its passive listener in a `PASV`, and gives it up in the next `PASV` or `PORT` or
when it is closed. No other command has to do with listeners or with forwarded ports, so a listener
stays bound where it was for as long as a session holds it.

* `passiveRun_run`, `passiveRun_processInput`: what a command and a line do with the listener;
* `DataRun.gives_notMem`, `notMem_closes`: a data connection is never handed out under the handle of
  a listener, and a listener that is open in the end has not been closed in between;
* `Reachable.bound`: a listener is bound to the port of its slot.
-/

namespace Ftp

open Program

/-! ## Lines -/

/-- The request binds a listener, has to do with a forwarded port, or announces a listener. -/
def Request.arranges : Request → Bool
  | .listen _ | .addForward _ _ | .removeForward _ => true
  | .reply _ message => message.code = 227
  | _ => false

/-- The runs of a command, or of a line, as far as they concern the passive listener. -/
inductive PassiveRun (setting : Setting) (session : Session) : List Event → Session → Prop
  | kept {events : List Event} {session' : Session}
    (aside : ∀ event ∈ events, event.request.arranges = false)
    (listener : session'.passiveListener = session.passiveListener)
    (forwarded : session'.forwardedPort = session.forwardedPort) :
    PassiveRun setting session events session'
  /-- The listener is given up, and no other one takes its place. -/
  | closed {after : List Event} {session' : Session}
    (aside : ∀ event ∈ after, (∃ endpoint cause, event = ⟨.listen endpoint, .error cause⟩) ∨
      event.request.arranges = false)
    (listener : session'.passiveListener = none) (forwarded : session'.forwardedPort = none) :
    PassiveRun setting session (session.passiveClosed ++ after) session'
  | opened {port : UInt16} {bound : Socket} {opening after : List Event}
    {outer : Option UInt16} {ip : IPv4} {session' : Session}
    (range : port.toNat = setting.config.passivePortBase.toNat + session.slot)
    (listening : ListenRun setting.config session port bound opening outer ip)
    (clock : ∀ event ∈ after, event.request = .unixTime)
    (listener : session'.passiveListener = some bound)
    (forwarded : session'.forwardedPort = outer) :
    PassiveRun setting session
      (session.passiveClosed ++ (opening ++
        said session.control 227 (Reply.passiveAddress ⟨ip, port⟩) :: after)) session'

section Lines

variable {setting : Setting} {session session' : Session} {events : List Event} {argument : Text}

/-- What a session keeps while nothing is done about its listener. -/
theorem Change.passiveListener_eq {command : Command}
    (h : Change setting session argument command session') (hport : command ≠ .port)
    (hpasv : command ≠ .pasv) :
    session'.passiveListener = session.passiveListener ∧
      session'.forwardedPort = session.forwardedPort := by
  cases h with
  | port => exact absurd rfl hport
  | pasv | noPasv => exact absurd rfl hpasv
  | _ => exact ⟨rfl, rfl⟩

/-- A request arranges nothing if it neither asks for that nor announces a listener. -/
theorem arranges_eq_false {r : Request} (hguarded : r.isGuarded = true → r.arranges = false)
    (hcode : ∀ control reply, r.reply? = some (control, reply) → reply.code ≠ 227) :
    r.arranges = false := by
  cases r with
  | listen | addForward | removeForward => exact hguarded rfl
  | reply control message => exact decide_eq_false (hcode control message rfl)
  | _ => rfl

theorem arranges_of_mayAsk {command : Command} {r : Request} (h : command.mayAsk r = true)
    (hport : command ≠ .port) (hpasv : command ≠ .pasv) (hguarded : r.isGuarded = true) :
    r.arranges = false := by
  cases r with
  | listen | addForward =>
    exact absurd (List.mem_singleton.1 (of_decide_eq_true h)) hpasv
  | removeForward =>
    rcases List.mem_cons.1 (of_decide_eq_true h) with rfl | hmem
    · exact absurd rfl hport
    · exact absurd (List.mem_singleton.1 hmem) hpasv
  | reply => cases hguarded
  | _ => rfl

theorem passiveRun_run {command : Command} {result : Status × Session}
    (hidle : command.duringTransfer = false → session.isTransferring = false)
    (run : Exec (command.run setting session argument) events result) :
    PassiveRun setting session events result.2 := by
  by_cases hport : command = .port
  · subst hport
    simp only [Command.run, Action.port] at run
    split at run
    · obtain ⟨rfl, rfl⟩ := (plays_fail ..).eq_of_exec run
      exact .kept (by simp [Request.arranges, Reply.code]) rfl rfl
    · obtain ⟨_, rfl, hsucceed⟩ := (plays_closePassive session).of_bind run
      obtain ⟨rfl, rfl⟩ := (plays_succeed ..).eq_of_exec hsucceed
      exact .closed (by simp [Request.arranges, Reply.code]) rfl rfl
  by_cases hpasv : command = .pasv
  · subst hpasv
    obtain ⟨_, ⟨opened, session'⟩, _, rfl, hopen, hanswer⟩ := Exec.bind_iff.1 run
    obtain ⟨opening, rfl, hopening⟩ := exec_openPassive_run hopen
    rw [List.append_assoc]
    cases hopening with
    | @outOfRange error =>
      obtain ⟨rfl, rfl⟩ := (plays_fail ..).eq_of_exec hanswer
      refine .closed ?_ rfl rfl
      cases error <;> simp [Request.arranges, Reply.code, TransferError.replyCode]
    | refused _ cause =>
      obtain ⟨rfl, rfl⟩ := (plays_fail ..).eq_of_exec hanswer
      refine .closed ?_ rfl rfl
      simp [Request.arranges, Reply.code, TransferError.replyCode]
    | opened range listening =>
      obtain ⟨rfl, rfl⟩ := (plays_succeed ..).eq_of_exec hanswer
      exact .opened range listening (fun _ hmem => absurd hmem List.not_mem_nil) rfl rfl
  · have hchange := (returns_run setting session argument command).of_exec run
    obtain ⟨hlistener, hforwarded⟩ := hchange.passiveListener_eq hport hpasv
    refine .kept (fun event hmem => ?_) hlistener hforwarded
    have hasks := AsksOnly.of_exec (asksOnly_run setting session (fun _ => True) argument command)
      run event hmem
    have hvoices := (conducts_run setting session argument command hidle).voices_of_exec run event
      hmem
    refine arranges_eq_false (arranges_of_mayAsk hasks.kind hport hpasv) ?_
    exact fun control reply hreply heq => hpasv ((hvoices control reply hreply).passive heq)

/-- To look at the clock is all that is left to do then. -/
theorem PassiveRun.touch (h : PassiveRun setting session events session') (now : Int) :
    PassiveRun setting session (events ++ [⟨.unixTime, now⟩])
      { session' with lastCommand := now } := by
  cases h with
  | kept aside listener forwarded =>
    refine .kept (fun event hmem => ?_) listener forwarded
    rcases List.mem_append.1 hmem with hmem | hmem
    · exact aside event hmem
    · rw [List.mem_singleton.1 hmem]
      rfl
  | closed aside listener forwarded =>
    rw [List.append_assoc]
    refine .closed (fun event hmem => ?_) listener forwarded
    rcases List.mem_append.1 hmem with hmem | hmem
    · exact aside event hmem
    · rw [List.mem_singleton.1 hmem]
      exact .inr rfl
  | opened range listening clock listener forwarded =>
    rw [List.append_assoc, List.append_assoc, List.cons_append]
    refine .opened range listening (fun event hmem => ?_) listener forwarded
    rcases List.mem_append.1 hmem with hmem | hmem
    · exact clock event hmem
    · rw [List.mem_singleton.1 hmem]

theorem passiveRun_dispatch {raw : Text} {result : Status × Session}
    (run : Exec (Dispatch.dispatch setting session raw) events result) :
    PassiveRun setting session events result.2 := by
  cases exec_dispatch run with
  | unknown | notLoggedIn | denied | ignored =>
    exact .kept (by simp [Request.arranges, Reply.code]) rfl rfl
  | run _ verdict hrun now =>
    exact (passiveRun_run (isTransferring_of_verdict verdict) hrun).touch now

theorem passiveRun_processInput {result : Status × Session}
    (run : Exec (Dispatch.processInput setting session) events result) :
    PassiveRun setting session events result.2 := by
  cases exec_processInput run with
  | line _ hline =>
    cases passiveRun_dispatch hline with
    | kept aside listener forwarded => exact .kept aside listener forwarded
    | closed aside listener forwarded => exact .closed aside listener forwarded
    | opened range listening clock listener forwarded =>
      cases listening with
      | outside => exact .opened range (.outside _) clock listener forwarded
      | own endpoint => exact .opened range (.own endpoint) clock listener forwarded
      | bindAddress error => exact .opened range (.bindAddress error) clock listener forwarded
  | overlong | nothing => exact .kept (by simp [Request.arranges, Reply.code]) rfl rfl

end Lines

/-! ## Deeds -/

section Deeds

variable {server server' : Server} {deed : Deed} {events : List Event} {slot : Nat}
  {session session' : Session}

theorem Server.Tells.code_ne {reply : Reply} (h : server.Tells deed reply)
    (hdeed : ∀ slot, deed ≠ .serve slot) : reply.code ≠ 227 := by
  cases h with
  | phrase h => exact code_ne_of_mem_phrases h (by decide)
  | timeout => simp [Reply.code]
  | line serve => exact absurd serve (hdeed _)

/-- Whatever is done for a session that stays, only a line arranges anything. -/
theorem exec_passiveRun (placed : server.sessions.Placed) (hdeed : deed.slot? = some slot)
    (get : server.sessions.get? slot = some session)
    (run : Exec (server.perform deed) events server')
    (get' : server'.sessions.get? slot = some session') :
    PassiveRun server.setting session events session' := by
  have hgone : (deed = .close slot ∨ deed = .expire slot) → False := fun hclose => by
    rw [get?_of_close hclose run] at get'
    cases get'
  have htells := (conducts_perform placed deed).voices_of_exec run
  cases deed with
  | start | register | poll | accept | readClock | unlisten => cases hdeed
  | close => cases hdeed; exact (hgone (.inl rfl)).elim
  | expire => cases hdeed; exact (hgone (.inr rfl)).elim
  | advance =>
    cases hdeed
    obtain ⟨outcome, _, hstep, hget⟩ := exec_advance placed get run
    obtain rfl := Option.some.inj (hget.symm.trans get')
    obtain ⟨now, transmission, -, rfl⟩ := (returns_step server.setting session).of_exec hstep
    have hasks : (Transfer.step server.setting session).AsksOnly (fun _ => True)
        fun r => r.isGuarded = true → r.arranges = false :=
      asksOnly_step (fun r hfree hguarded => absurd (hfree.symm.trans hguarded) (by decide))
        (fun _ _ _ _ _ _ => rfl) fun _ _ _ _ _ => rfl
    refine .kept (fun event hmem => ?_) rfl rfl
    refine arranges_eq_false (AsksOnly.of_exec hasks hstep event hmem) ?_
    intro control reply hreply
    exact (htells event hmem control reply hreply).code_ne fun _ heq => by cases heq
  | receive =>
    cases hdeed
    obtain ⟨alive, _, hreceive, hget⟩ := exec_receive placed get run
    obtain rfl := Option.some.inj (hget.symm.trans get')
    obtain ⟨input, rfl⟩ := (returns_receive server.setting session).of_exec hreceive
    refine .kept (fun event hmem => ?_) rfl rfl
    obtain ⟨limit, hrequest⟩ := exec_receive_control hreceive event hmem
    rw [hrequest]
    rfl
  | serve =>
    cases hdeed
    obtain ⟨status, _, hserve, hget⟩ := exec_serve placed get run
    obtain rfl := Option.some.inj (hget.symm.trans get')
    exact passiveRun_processInput hserve

end Deeds

/-! ## Where a listener is bound -/

/-- Where the socket listens after the event, if it listened at `bound` before. -/
def Event.rebind (socket : Socket) (bound : Option Endpoint) : Event → Option Endpoint
  | ⟨.listen endpoint, .ok other⟩ => if other = socket then some endpoint else bound
  | ⟨.accept _ _, .ok (other, _)⟩ => if other = socket then none else bound
  | ⟨.connect _ _, .ok other⟩ => if other = socket then none else bound
  | ⟨.closeSocket other, _⟩ => if other = socket then none else bound
  | _ => bound

/-- Where the socket listens after the events, if it is a listener that is open. -/
def endpointOf (socket : Socket) (events : List Event) : Option Endpoint :=
  events.foldl (Event.rebind socket) none

/-- The handle is neither closed nor handed out. -/
structure Event.Retains (event : Event) (handle : Handle) : Prop where
  closes : handle ∉ event.request.closes
  gives : handle ∉ event.request.gives event.answer

section Bindings

variable {socket : Socket} {event : Event} {events more : List Event} {opened : Multiset Handle}

theorem Event.Spares.retains {handle : Handle} (h : event.Spares handle) :
    event.Retains handle := by
  refine ⟨fun hmem => h.1 ?_, h.2⟩
  generalize event.request = r at hmem ⊢
  cases r with
  | closeSocket | closeFile => exact List.mem_singleton.2 (Multiset.mem_singleton.1 hmem)
  | _ => exact absurd hmem (Multiset.notMem_zero _)

theorem Event.Retains.rebind_eq (h : event.Retains (.socket socket)) (bound : Option Endpoint) :
    event.rebind socket bound = bound := by
  obtain ⟨hcloses, hgives⟩ := h
  have hne : ∀ {other : Socket}, Handle.socket socket ∉ ({.socket other} : Multiset Handle) →
      other ≠ socket := fun hmem heq => hmem (heq ▸ Multiset.mem_singleton_self _)
  obtain ⟨request, answer⟩ := event
  cases request with
  | listen | connect =>
    cases answer with
    | error => rfl
    | ok other => exact if_neg (hne hgives)
  | accept =>
    cases answer with
    | error => rfl
    | ok client => exact if_neg (hne hgives)
  | closeSocket => exact if_neg (hne hcloses)
  | _ => rfl

theorem foldl_rebind_eq (h : ∀ event ∈ more, event.Retains (.socket socket))
    (bound : Option Endpoint) : more.foldl (Event.rebind socket) bound = bound := by
  induction more with
  | nil => rfl
  | cons event more ih =>
    rw [List.foldl_cons, (h event List.mem_cons_self).rebind_eq]
    exact ih fun event hmem => h event (List.mem_cons_of_mem _ hmem)

theorem endpointOf_append (h : ∀ event ∈ more, event.Retains (.socket socket)) :
    endpointOf socket (events ++ more) = endpointOf socket events := by
  rw [endpointOf, List.foldl_append, foldl_rebind_eq h]
  rfl

theorem endpointOf_listen {endpoint : Endpoint}
    (h : ∀ event ∈ more, event.Retains (.socket socket)) :
    endpointOf socket (events ++ ⟨.listen endpoint, .ok socket⟩ :: more) = some endpoint := by
  rw [endpointOf, List.foldl_append, List.foldl_cons, foldl_rebind_eq h]
  exact if_pos rfl

/-- What is open in the end, and has not been handed out in between, has not been closed. -/
theorem notMem_closes {handle : Handle} (hnodup : opened.Nodup)
    (hfresh : ownership.Follows opened events) (hopen : handle ∈ ownership.after opened events)
    (hgives : ∀ event ∈ events, handle ∉ event.request.gives event.answer) :
    ∀ event ∈ events, handle ∉ event.request.closes := by
  induction events generalizing opened with
  | nil => exact fun _ hmem => absurd hmem List.not_mem_nil
  | cons first rest ih =>
    have hrest : ∀ event ∈ rest, handle ∉ event.request.gives event.answer :=
      fun event hmem => hgives event (List.mem_cons_of_mem _ hmem)
    replace hopen : handle ∈
        ownership.after (ownership.next opened first.request first.answer) rest := hopen
    have hnext : handle ∈ ownership.next opened first.request first.answer := by
      rcases mem_after_ownership hopen with hmem | ⟨event, hmem, hgiven⟩
      · exact hmem
      · exact absurd hgiven (hrest event hmem)
    intro event hmem
    rcases List.mem_cons.1 hmem with rfl | hmem
    · rcases Multiset.mem_add.1 hnext with hleft | hgiven
      · intro hclosed
        have hone : Multiset.count handle opened ≤ 1 := Multiset.nodup_iff_count_le_one.1 hnodup _
        have hless : 1 ≤ Multiset.count handle event.request.closes :=
          Multiset.one_le_count_iff_mem.2 hclosed
        have hcount := Multiset.count_pos.2 hleft
        rw [Multiset.count_sub] at hcount
        omega
      · exact absurd hgiven (hgives event List.mem_cons_self)
    · exact ih (nodup_next hnodup hfresh.1) hfresh.2 hopen hrest event hmem

end Bindings

section Listeners

variable {server server' : Server} {deed : Deed} {events : List Event} {event : Event}
  {slot : Nat} {setting : Setting} {session session' : Session} {socket listener : Socket}
  {opened : Multiset Handle} {history : List Entry}

/-- A socket is handed out with a listener or with a connection. -/
theorem isMeeting_of_gives (h : Handle.socket socket ∈ event.request.gives event.answer)
    (harranges : event.request.arranges = false) : event.request.isMeeting = true := by
  obtain ⟨request, answer⟩ := event
  cases request with
  | listen => cases harranges
  | accept | connect => rfl
  | openFile => cases answer <;> simp [Request.gives] at h
  | _ => exact absurd h (Multiset.notMem_zero _)

/-- A data connection does not get the handle of anything that is open. -/
theorem EstablishRun.gives_notMem {wait : Nat} {client : IPv4} {target : Target}
    {outcome : Except TransferError Socket}
    (h : EstablishRun wait client target events outcome)
    (hfresh : ownership.Follows opened events) :
    ∀ event ∈ events, ∀ handle ∈ event.request.gives event.answer, handle ∉ opened := by
  have hrest : ∀ event ∈ events.tail, event.request.gives event.answer = 0 := by
    cases h <;> simp [Request.gives]
  cases events with
  | nil => exact fun _ hmem => absurd hmem List.not_mem_nil
  | cons first rest =>
    intro event hmem handle hgiven
    rcases List.mem_cons.1 hmem with rfl | hmem
    · exact hfresh.1 handle hgiven
    · rw [hrest event hmem] at hgiven
      exact absurd hgiven (Multiset.notMem_zero _)

theorem DataRun.gives_notMem (h : DataRun setting session events session')
    (hfresh : ownership.Follows opened events) (hmem : event ∈ events)
    (hmeeting : event.request.isMeeting = true) :
    ∀ handle ∈ event.request.gives event.answer, handle ∉ opened := by
  have hmoves := movesData_of_isMeeting hmeeting
  cases h with
  | without still => rw [still event hmem] at hmoves; cases hmoves
  | failed before_asks establish after_still =>
    rw [List.append_assoc, Monitor.follows_append, Monitor.follows_append,
      after_of_inquires before_asks] at hfresh
    rcases List.mem_append.1 hmem with hmem | hmem
    · rcases List.mem_append.1 hmem with hmem | hmem
      · rw [movesData_of_inquires (before_asks event hmem)] at hmoves; cases hmoves
      · exact establish.gives_notMem hfresh.2.1 event hmem
    · rw [after_still event hmem] at hmoves; cases hmoves
  | connected before_asks establish after_stream =>
    rw [List.append_assoc, Monitor.follows_append, Monitor.follows_append,
      after_of_inquires before_asks] at hfresh
    rcases List.mem_append.1 hmem with hmem | hmem
    · rcases List.mem_append.1 hmem with hmem | hmem
      · rw [movesData_of_inquires (before_asks event hmem)] at hmoves; cases hmoves
      · exact establish.gives_notMem hfresh.2.1 event hmem
    · rw [isMeeting_of_stream (after_stream event hmem hmoves)] at hmeeting
      cases hmeeting

/-- A deed for a session that does not arrange for a listener makes no connection under the handle
of one that is open. -/
theorem notMem_gives (placed : server.sessions.Placed) (hdeed : deed.slot? = some slot)
    (get : server.sessions.get? slot = some session)
    (run : Exec (server.perform deed) events server') (hfresh : ownership.Follows opened events)
    (aside : ∀ event ∈ events, event.request.arranges = false)
    (hopen : Handle.socket socket ∈ opened) :
    ∀ event ∈ events, Handle.socket socket ∉ event.request.gives event.answer := by
  intro event hmem hgiven
  have hmeeting := isMeeting_of_gives hgiven (aside event hmem)
  have hmoves := (conducts_perform placed deed).moves_of_exec run event hmem
    (movesData_of_isMeeting hmeeting)
  generalize hrequest : event.request = r at hmoves hmeeting
  cases hmoves with
  | accept => cases hdeed
  | advance _ _ stream =>
    rw [isMeeting_of_stream stream] at hmeeting
    cases hmeeting
  | receive => cases hmeeting
  | serve =>
    cases hdeed
    obtain ⟨status, _, hserve, -⟩ := exec_serve placed get run
    have hdata := dataRun_processInput hserve
    exact hdata.gives_notMem hfresh hmem (hrequest ▸ hmeeting) _ hgiven hopen

/-- While a session holds its listener it is neither closed nor handed out again. -/
theorem retains_listener (placed : server.sessions.Placed) (owned : server.Owned opened)
    (run : Exec (server.perform deed) events server') (hfresh : ownership.Follows opened events)
    (get : server.sessions.get? slot = some session)
    (get' : server'.sessions.get? slot = some session')
    (aside : deed.slot? = some slot → ∀ event ∈ events, event.request.arranges = false)
    (hlistener : session.passiveListener = some listener)
    (hlistener' : session'.passiveListener = some listener) :
    ∀ event ∈ events, event.Retains (.socket listener) := by
  have hholds : ∀ {session : Session}, session.passiveListener = some listener →
      Handle.socket listener ∈ session.handles := fun h => by
    simp [Session.handles, listenerHandles, h]
  by_cases hdeed : deed.slot? = some slot
  · have hopen := Multiset.mem_of_le (owned.le_opened get) (hholds hlistener)
    have hleft := Multiset.mem_of_le ((owned.perform placed run hfresh).le_opened get')
      (hholds hlistener')
    have hgives := notMem_gives placed hdeed get run hfresh (aside hdeed) hopen
    exact fun event hmem =>
      ⟨notMem_closes owned.nodup hfresh hleft hgives event hmem, hgives event hmem⟩
  · by_cases hpoll : deed = .poll
    · subst hpoll
      intro event hmem
      obtain ⟨sockets, wait, hrequest⟩ := exec_poll run event hmem
      obtain ⟨request, answer⟩ := event
      obtain rfl : request = .poll sockets wait := hrequest
      exact ⟨Multiset.notMem_zero _, Multiset.notMem_zero _⟩
    · exact fun event hmem =>
        (spares_of_foreign owned run hfresh get hdeed hpoll event hmem _
          (hholds hlistener)).retains

/-- What follows when a listener has been bound closes nothing and hands nothing out. -/
theorem ListenRun.eq_cons {config : Config} {port : UInt16} {opening : List Event}
    {outer : Option UInt16} {ip : IPv4}
    (h : ListenRun config session port listener opening outer ip) :
    ∃ rest, opening = ⟨.listen ⟨config.bindAddress, port⟩, .ok listener⟩ :: rest ∧
      ∀ event ∈ rest, ∀ handle, event.Retains handle := by
  have hretains : ∀ {event : Event}, event.request.closes = 0 →
      event.request.gives event.answer = 0 → ∀ handle, event.Retains handle :=
    fun hcloses hgives _ =>
      ⟨hcloses ▸ Multiset.notMem_zero _, hgives ▸ Multiset.notMem_zero _⟩
  cases h <;> refine ⟨_, rfl, fun event hmem => ?_⟩ <;>
    simp only [List.mem_cons, List.not_mem_nil, or_false] at hmem <;>
    rcases hmem with rfl | rfl <;> exact hretains rfl rfl

/-- The listener of a session is bound to the port of its slot, at the address of the server. -/
theorem Reachable.bound (h : Reachable history server) (fresh : Fresh history)
    (get : server.sessions.get? slot = some session)
    (hlistener : session.passiveListener = some listener) :
    ∃ port, endpointOf listener (eventsOf history) = some ⟨server.config.bindAddress, port⟩ ∧
      port.toNat = server.config.passivePortBase.toNat + slot := by
  refine h.session_induction (P := fun history server session => Fresh history →
    ∀ listener, session.passiveListener = some listener →
      ∃ port, endpointOf listener (eventsOf history) = some ⟨server.config.bindAddress, port⟩ ∧
        port.toNat = server.config.passivePortBase.toNat + slot) ?_ ?_ get fresh listener hlistener
  · rintro _ _ _ _ - - - - ⟨control, remote, now, capacity, rfl⟩ - _ ⟨⟩
  · intro older entry server session session' hreachable ih get run get' _ fresh listener hlistener
    obtain ⟨hbefore, hfresh⟩ := fresh_cons.1 fresh
    have placed := hreachable.placed
    have owned := hreachable.owned hbefore
    have houtcome := hreachable.outcome run
    rw [eventsOf_cons, houtcome.config_eq]
    generalize entry.events = events at run hfresh ⊢
    have hkept : (entry.deed.slot? = some slot →
        ∀ event ∈ events, event.request.arranges = false) →
        session.passiveListener = some listener →
        endpointOf listener (eventsOf older ++ events) =
          endpointOf listener (eventsOf older) := fun aside hsame =>
      endpointOf_append (retains_listener placed owned run hfresh get get' aside hsame hlistener)
    by_cases hdeed : entry.deed.slot? = some slot
    · cases exec_passiveRun placed hdeed get run get' with
      | kept aside same =>
        rw [same] at hlistener
        rw [hkept (fun _ => aside) hlistener]
        exact ih hbefore listener hlistener
      | closed _ gone =>
        rw [gone] at hlistener
        cases hlistener
      | @opened port _ _ after _ ip _ range listening clock bound =>
        obtain ⟨rest, rfl, hrest⟩ := listening.eq_cons
        have hafter : ∀ event ∈ rest ++
            said session.control 227 (Reply.passiveAddress ⟨ip, port⟩) :: after,
            event.Retains (.socket listener) := by
          intro event hmem
          rcases List.mem_append.1 hmem with hmem | hmem
          · exact hrest event hmem _
          rcases List.mem_cons.1 hmem with rfl | hmem
          · exact ⟨Multiset.notMem_zero _, Multiset.notMem_zero _⟩
          · obtain ⟨request, answer⟩ := event
            obtain rfl : request = .unixTime := clock _ hmem
            exact ⟨Multiset.notMem_zero _, Multiset.notMem_zero _⟩
        obtain rfl := Option.some.inj (bound.symm.trans hlistener)
        refine ⟨port, ?_, placed slot session get ▸ range⟩
        rw [← List.append_assoc, List.cons_append]
        exact endpointOf_listen hafter
    · obtain rfl := Option.some.inj ((houtcome.get?_of_foreign get hdeed).symm.trans get')
      rw [hkept (fun heq => absurd heq hdeed) hlistener]
      exact ih hbefore listener hlistener

end Listeners

end Ftp
