import Ftp.Proofs.Legible
import Ftp.Proofs.Separation
import Ftp.Proofs.Tally

/-!
# What a client reads is what it was told

Nothing but replies is written on a control connection, since no data connection that is made while
it is open has the same handle. All the replies that a session is given go there, and they can be
read. So what a client reads conveys what it was told, whatever it has sent.

* `writtenTo_eq`: without data, the replies are all that is written;
* `DataRun.socket_notMem`, `eq_receive_of_stream_control`: the control connection carries no data;
* `exec_told`, `exec_written`: what one deed writes to a session;
* `Reachable.delivered`, `faithful_of_reachable`: what a session has been written since its
  admission.
-/

namespace Ftp

open Program

/-! ## Streams -/

/-- What the request writes on the connection. -/
def Request.written (control : Socket) : Request → List UInt8
  | .send socket bytes => if socket = control then bytes else []
  | .reply socket message => if socket = control then message.bytes else []
  | _ => []

/-- All that is written on the connection, in order. -/
def writtenTo (control : Socket) (events : List Event) : List UInt8 :=
  events.flatMap fun event => event.request.written control

section Streams

variable {control : Socket} {events : List Event} {replies : List Reply}

theorem writtenTo_append (events more : List Event) :
    writtenTo control (events ++ more) = writtenTo control events ++ writtenTo control more :=
  List.flatMap_append

/-- Nothing is written on a connection that nothing is done with. -/
theorem writtenTo_eq_nil (h : ∀ event ∈ events, Handle.socket control ∉ event.request.uses) :
    writtenTo control events = [] := by
  refine List.flatMap_eq_nil_iff.2 fun event hmem => ?_
  have huses := h event hmem
  generalize event.request = r at huses ⊢
  cases r with
  | send socket bytes | reply socket message =>
    refine if_neg fun heq => huses ?_
    rw [heq]
    exact List.mem_singleton_self _
  | _ => rfl

/-- Where no data is sent on the connection, the replies are all that is written. -/
theorem writtenTo_eq (h : ∀ event ∈ events, ∀ bytes, event.request ≠ .send control bytes)
    (hreplies : repliesIn events = replies.map (control, ·)) :
    writtenTo control events = replies.flatMap Reply.bytes := by
  have hall : writtenTo control events =
      (repliesIn events).flatMap fun reply => if reply.1 = control then reply.2.bytes else [] := by
    rw [repliesIn, List.filterMap_eq_flatMap_toList, List.flatMap_assoc, writtenTo]
    refine List.flatMap_congr fun event hmem => ?_
    have hsend := h event hmem
    generalize event.request = r at hsend ⊢
    cases r with
    | send socket bytes =>
      have hne : socket ≠ control := fun heq => hsend bytes (heq ▸ rfl)
      exact if_neg hne
    | reply socket message => exact (List.append_nil _).symm
    | _ => rfl
  rw [hall, hreplies, List.flatMap_map]
  exact List.flatMap_congr fun reply _ => if_pos rfl

end Streams

/-! ## No data on the control connection -/

section Deeds

variable {server server' : Server} {deed : Deed} {events : List Event} {slot : Nat}
  {setting : Setting} {session session' : Session} {opened : Multiset Handle}

/-- To ask about a file opens and closes nothing. -/
theorem next_of_inquires {r : Request} (h : r.inquires = true) (answer : r.Answer) :
    ownership.next opened r answer = opened := by
  have hcloses : r.closes = 0 := by
    cases r <;> first | rfl | cases h
  have hgives : r.gives answer = 0 := by
    cases r <;> first | rfl | cases h
  simp [ownership, hcloses, hgives]

theorem after_of_inquires (h : ∀ event ∈ events, event.request.inquires = true) :
    ownership.after opened events = opened := by
  induction events with
  | nil => rfl
  | cons event events ih =>
    rw [Monitor.after, next_of_inquires (h event List.mem_cons_self)]
    exact ih fun event hmem => h event (List.mem_cons_of_mem _ hmem)

/-- A command moves its data over a connection that was not open before. -/
theorem DataRun.socket_notMem (h : DataRun setting session events session')
    (hfresh : ownership.Follows opened events) {event : Event} (hmem : event ∈ events)
    {socket : Socket} (hstream : event.request.stream? = some socket) :
    Handle.socket socket ∉ opened := by
  have hmoves := movesData_of_stream hstream
  cases h with
  | without still => rw [still event hmem] at hmoves; cases hmoves
  | failed before_asks establish after_still =>
    rcases List.mem_append.1 hmem with hmem | hmem
    · exact absurd hmem (notMem_of_stream before_asks establish hstream)
    · rw [after_still event hmem] at hmoves; cases hmoves
  | connected before_asks establish after_stream =>
    rcases List.mem_append.1 hmem with hmem | hmem
    · exact absurd hmem (notMem_of_stream before_asks establish hstream)
    · rw [after_stream event hmem hmoves] at hstream
      cases hstream
      -- What comes before leaves open what was open, so that the new handle is none of that.
      rw [List.append_assoc, Monitor.follows_append, Monitor.follows_append,
        after_of_inquires before_asks] at hfresh
      obtain ⟨-, hestablishing, -⟩ := hfresh
      generalize session.target = target at establish
      cases establish with
      | accepted | connected => exact hestablishing.1 _ (Multiset.mem_singleton_self _)

theorem uses_of_stream {r : Request} {socket : Socket} (h : r.stream? = some socket) :
    Handle.socket socket ∈ r.uses := by
  cases r with
  | send | receive =>
    cases h
    exact List.mem_singleton_self _
  | _ => cases h

/-- No deed moves bytes on the control connection of a session but to receive from it. -/
theorem eq_receive_of_stream_control (placed : server.sessions.Placed)
    (owned : server.Owned opened) (run : Exec (server.perform deed) events server')
    (hfresh : ownership.Follows opened events)
    (get : server.sessions.get? slot = some session) {event : Event} (hmem : event ∈ events)
    (hstream : event.request.stream? = some session.control) : deed = .receive slot := by
  have hcontrol := session.control_mem
  have hmoves := (conducts_perform placed deed).moves_of_exec run event hmem
    (movesData_of_stream hstream)
  -- A deed for the session may move bytes on its data connection, one for another session on that
  -- one's.
  by_cases hdeed : deed.slot? = some slot
  · have hrequest := hstream
    generalize event.request = r at hmoves hrequest
    cases hmoves with
    | accept => cases hrequest
    | advance get' carries stream =>
      cases hdeed
      rw [get] at get'
      cases get'
      rw [hrequest] at stream
      cases stream
      have hnodup := owned.nodup_handles get
      cases htransmission : session.transmission with
      | idle => rw [htransmission] at carries; cases carries
      | retrieving | storing =>
        rw [htransmission] at carries
        cases carries
        simp [Session.handles, Transmission.handles, htransmission] at hnodup
    | receive =>
      cases hdeed
      rfl
    | serve =>
      cases hdeed
      obtain ⟨status, session', hserve, -⟩ := exec_serve placed get run
      have hopen := Multiset.mem_of_le (owned.le_opened get) hcontrol
      exact absurd hopen
        ((dataRun_processInput hserve).socket_notMem hfresh hmem hstream)
  · have hpoll : deed ≠ .poll := by
      rintro rfl
      obtain ⟨sockets, wait, hrequest⟩ := exec_poll run event hmem
      rw [hrequest] at hstream
      cases hstream
    exact absurd hcontrol
      (untouched owned run hfresh get hdeed hpoll event hmem _ (uses_of_stream hstream))

/-- No deed sends data on the control connection of a session. -/
theorem send_ne_control (placed : server.sessions.Placed) (owned : server.Owned opened)
    (run : Exec (server.perform deed) events server') (hfresh : ownership.Follows opened events)
    (get : server.sessions.get? slot = some session) :
    ∀ event ∈ events, ∀ bytes, event.request ≠ .send session.control bytes := by
  intro event hmem bytes hsend
  have hdeed := eq_receive_of_stream_control placed owned run hfresh get hmem (by rw [hsend]; rfl)
  have hmoves := (conducts_perform placed deed).moves_of_exec run event hmem (by rw [hsend]; rfl)
  rw [hsend, hdeed] at hmoves
  cases hmoves

/-! ## What a deed says to a session -/

theorem tells_onSession {next : Session → Program SessionTable}
    (get : server.sessions.get? slot = some session)
    (h : (next session).Tells session.control fun _ _ => True) :
    (server.onSession slot next).Tells session.control fun _ _ => True := by
  rw [Server.onSession_eq get]
  exact h.bind fun _ _ _ => tells_done _ trivial

theorem silent_closeSlot (get : server.sessions.get? slot = some session) :
    (Server.closeSlot slot server.sessions).Silent := by
  refine fun control => (plays_closeSlot get).tells ?_ rfl
  exact repliesIn_dismantled session

/-- Whatever is said in a deed about a session is said on its control connection. -/
theorem tells_perform (hlogin : session.isTransferring = true → session.isLoggedIn = true)
    (get : server.sessions.get? slot = some session) (hdeed : deed.slot? = some slot) :
    (server.perform deed).Tells session.control fun _ _ => True := by
  have hclose := silent_closeSlot get
  cases deed with
  | start | register | poll | accept | readClock | unlisten => cases hdeed
  | advance =>
    cases hdeed
    exact tells_onSession get ((tells_step_any _ session).bind fun _ _ _ => tells_done _ trivial)
  | receive =>
    cases hdeed
    exact tells_onSession get ((silent_receive _ session).tells_bind fun _ => tells_done _ trivial)
  | serve =>
    cases hdeed
    exact tells_onSession get ((tells_processInput hlogin).bind fun _ _ _ => tells_done _ trivial)
  | close =>
    cases hdeed
    exact hclose.tells_bind fun _ => tells_done _ trivial
  | expire =>
    cases hdeed
    exact tells_onSession get (tells_say 421 _ ((hclose _).mono fun _ _ _ => trivial))

theorem exec_told (hlogin : session.isTransferring = true → session.isLoggedIn = true)
    (get : server.sessions.get? slot = some session) (hdeed : deed.slot? = some slot)
    (run : Exec (server.perform deed) events server') :
    repliesIn events = (Entry.told slot ⟨server, deed, events⟩).map (session.control, ·) :=
  (told_of_tells server hdeed (tells_perform hlogin get hdeed) run).1

/-- On its control connection a session is written what it is told, and nothing else. -/
theorem exec_written (placed : server.sessions.Placed) (owned : server.Owned opened)
    (hlogin : session.isTransferring = true → session.isLoggedIn = true)
    (get : server.sessions.get? slot = some session)
    (run : Exec (server.perform deed) events server') (hfresh : ownership.Follows opened events) :
    writtenTo session.control events =
      (Entry.told slot ⟨server, deed, events⟩).flatMap Reply.bytes := by
  by_cases hdeed : deed.slot? = some slot
  · exact writtenTo_eq (send_ne_control placed owned run hfresh get)
      (exec_told hlogin get hdeed run)
  · rw [Entry.told, if_neg hdeed, List.flatMap_nil]
    -- To wait for the clients is no deed of one of them, and still uses all control connections.
    by_cases hpoll : deed = .poll
    · subst hpoll
      refine List.flatMap_eq_nil_iff.2 fun event hmem => ?_
      obtain ⟨sockets, wait, hrequest⟩ := exec_poll run event hmem
      rw [hrequest]
      rfl
    · exact writtenTo_eq_nil fun event hmem huses =>
        untouched owned run hfresh get hdeed hpoll event hmem _ huses session.control_mem

end Deeds

/-! ## Over a history -/

/-- What a client is told first. -/
def Reply.greeting : Reply :=
  .line 220 "Welcome to mini-ftpd."

/-- The replies that the session of the slot has been given since its admission. -/
def issued (slot : Nat) (history : List Entry) : List Reply :=
  .greeting :: (lifetime slot history).reverse.flatMap (Entry.told slot)

/-- The entries of the life of the session of the slot, after the one that admitted it. -/
def stay (slot : Nat) (history : List Entry) : List Entry :=
  history.take ((lifetime slot history).length + 1)

section Histories

variable {older history : List Entry} {entry : Entry} {server server' : Server} {slot : Nat}
  {session session' : Session}

theorem issued_cons (get : entry.before.sessions.get? slot = some session) :
    issued slot (entry :: older) = issued slot older ++ entry.told slot := by
  simp [issued, lifetime_cons_of_get get]

theorem stay_cons (get : entry.before.sessions.get? slot = some session) :
    stay slot (entry :: older) = entry :: stay slot older := by
  simp [stay, lifetime_cons_of_get get]

/-- What the session of the slot has been given has been written on the control connection. -/
structure Delivered (slot : Nat) (history : List Entry) (control : Socket) : Prop where
  /-- Every reply was sent there. -/
  addressed : ∀ entry ∈ lifetime slot history, entry.deed.slot? = some slot →
    repliesIn entry.events = (entry.told slot).map (control, ·)
  /-- Nothing else has been written there. -/
  written : Fresh history →
    writtenTo control (eventsOf (stay slot history)) = (issued slot history).flatMap Reply.bytes

theorem Delivered.cons (h : Delivered slot older session.control)
    (reachable : Reachable older entry.before)
    (get : entry.before.sessions.get? slot = some session)
    (run : Exec (entry.before.perform entry.deed) entry.events server') :
    Delivered slot (entry :: older) session.control where
  addressed past hmem hdeed := by
    rw [lifetime_cons_of_get get] at hmem
    rcases List.mem_cons.1 hmem with rfl | hmem
    · exact exec_told (reachable.isLoggedIn get) get hdeed run
    · exact h.addressed past hmem hdeed
  written fresh := by
    obtain ⟨hbefore, hfresh⟩ := fresh_cons.1 fresh
    have hentry : writtenTo session.control entry.events =
        (entry.told slot).flatMap Reply.bytes :=
      exec_written reachable.placed (reachable.owned hbefore) (reachable.isLoggedIn get) get run
        hfresh
    rw [stay_cons get, eventsOf_cons, writtenTo_append, h.written hbefore, hentry,
      issued_cons get, List.flatMap_append]

/-- A session that has just been admitted has been greeted. -/
theorem delivered_of_admitted (hdeed : entry.deed = .accept)
    (free : entry.before.sessions.get? slot = none)
    (run : Exec (entry.before.perform entry.deed) entry.events server)
    (get : server.sessions.get? slot = some session) :
    Delivered slot (entry :: older) session.control where
  addressed past hmem := by
    rw [lifetime_cons_of_free free] at hmem
    cases hmem
  written _ := by
    rw [hdeed] at run
    obtain ⟨listener, hevents⟩ := exec_accept_admitted run free get
    have hstay : stay slot (entry :: older) = [entry] := by
      simp [stay, lifetime_cons_of_free free]
    have hissued : issued slot (entry :: older) = [.greeting] := by
      simp [issued, lifetime_cons_of_free free]
    rw [hstay, hissued, eventsOf_cons, eventsOf_nil, List.nil_append, hevents]
    simp [writtenTo, Request.written, said, Reply.greeting]

theorem Reachable.delivered (h : Reachable history server)
    (get : server.sessions.get? slot = some session) :
    Delivered slot history session.control := by
  refine h.session_induction (P := fun history _ session =>
    Delivered slot history session.control) ?_ ?_ get
  · intro _ _ _ _ hdeed hfree run get _
    exact delivered_of_admitted hdeed hfree run get
  · intro _ _ _ _ _ hreachable ih hbefore run _ hbecomes
    rw [hbecomes.sameClient.control]
    exact ih.cons hreachable hbefore run

theorem Reachable.legible_of_mem_issued (h : Reachable history server) :
    ∀ reply ∈ issued slot history, reply.Legible := by
  intro reply hmem
  rcases List.mem_cons.1 hmem with rfl | hmem
  · exact legible_phrase (by simp [phrases])
  obtain ⟨entry, hentry, htold⟩ := List.mem_flatMap.1 hmem
  have hlived := mem_of_mem_lifetime (List.mem_reverse.1 hentry)
  unfold Entry.told at htold
  split at htold
  · obtain ⟨⟨control, _⟩, hsaid, rfl⟩ := List.mem_map.1 htold
    obtain ⟨event, hevent, hreply⟩ := List.mem_filterMap.1 hsaid
    exact h.legible event (List.mem_flatMap.2 ⟨entry, List.mem_reverse.2 hlived, hevent⟩) control _
      hreply
  · cases htold

/-- What a client reads on its control connection is what it was told. -/
structure Faithful (slot : Nat) (history : List Entry) (session : Session) : Prop
    extends Delivered slot history session.control where
  /-- The bytes of the replies convey these replies and nothing else. -/
  conveys : ∀ messages, Conveys ((issued slot history).flatMap Reply.bytes) messages ↔
    messages = (issued slot history).map Reply.message
  /-- No line end stands in a reply. -/
  legible : ∀ reply ∈ issued slot history, reply.Legible
  /-- No line of a body begins like the line that ends it. -/
  inner : ∀ code header body footer, Reply.block code header body footer ∈ issued slot history →
    ∀ line ∈ body, ¬ Reply.codeText code ++ [' '] <+: ' ' :: line
  workingDir : Unbroken session.workingDir

/-- Whatever has happened to a server, each of its sessions has read what it was told, also if it
is gone after the latest deed. -/
theorem faithful_of_reachable (h : Reachable (entry :: older) server)
    (get : server.sessions.get? slot = some session ∨
      entry.before.sessions.get? slot = some session) :
    Faithful slot (entry :: older) session := by
  obtain ⟨hreachable, run⟩ := h.of_cons
  have hlegible : ∀ reply ∈ issued slot (entry :: older), reply.Legible :=
    h.legible_of_mem_issued
  have hdelivered : Delivered slot (entry :: older) session.control := by
    rcases get with get | get
    · exact h.delivered get
    · exact (hreachable.delivered get).cons hreachable get run
  have hdir : Unbroken session.workingDir :=
    get.elim h.unbroken_workingDir hreachable.unbroken_workingDir
  exact { hdelivered with
    conveys := fun messages => conveys_iff hlegible
    legible := hlegible
    inner := fun code header body footer hmem line _ =>
      Reply.not_isPrefix_indented (Reply.isCode_codeText (hlegible _ hmem).code) line
    workingDir := hdir }

/-- A client says what looks like a reply, and goes into a directory of which the name ends in half
a line end. -/
def halfLineEnds : List Entry × Server :=
  visit {} { name := "ada", password := [], root := "/srv/ftp", rights := .all }
    { nodes := [("/srv/ftp/p\r".toList, { kind := .dir, modified := .ofUnix 0 }),
        ("/srv/ftp/p\r/\n".toList, { kind := .file, data := [1, 2, 3], modified := .ofUnix 0 })] }
    "USER ada\r\nPASS x\r\n\n221 Goodbye.\r\r\nCWD p\r\r\nPWD\r\nMLST \n\r\n".toList
    (List.replicate 6 (.serve 0))

theorem faithful_of_reachable_halfLineEnds :
    ∃ entry older session, Reachable (entry :: older) halfLineEnds.2 ∧
      halfLineEnds.2.sessions.get? 0 = some session ∧ session.workingDir = "/p\r".toList ∧
      Fresh (entry :: older) ∧
      .line 500 "\n221 Goodbye.\r" ∈ issued 0 (entry :: older) ∧
      Faithful 0 (entry :: older) session := by
  obtain ⟨entry, hentry⟩ : ∃ entry, halfLineEnds.1.head? = some entry :=
    Option.isSome_iff_exists.1 (by decide +kernel)
  have hhistory : halfLineEnds.1 = entry :: halfLineEnds.1.tail :=
    (List.cons_head?_tail hentry).symm
  have hreachable : Reachable (entry :: halfLineEnds.1.tail) halfLineEnds.2 := by
    rw [← hhistory]
    exact reachable_visit _ _ _ _ _
  have hget : (halfLineEnds.2.sessions.get? 0).map Session.workingDir = some "/p\r".toList := by
    decide +kernel
  obtain ⟨session, hsession, hdir⟩ := Option.map_eq_some_iff.1 hget
  have hfresh : Fresh halfLineEnds.1 := by decide +kernel
  have hissued : .line 500 "\n221 Goodbye.\r" ∈ issued 0 halfLineEnds.1 := by decide +kernel
  rw [hhistory] at hfresh hissued
  exact ⟨entry, _, session, hreachable, hsession, hdir, hfresh, hissued,
    faithful_of_reachable hreachable (.inl hsession)⟩

end Histories

end Ftp
