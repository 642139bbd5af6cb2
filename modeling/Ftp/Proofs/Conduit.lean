import Ftp.Proofs.Isolation
import Ftp.Proofs.Opening
import Ftp.Proofs.Replies

/-!
# What is done for a transfer

A transfer goes through a data connection and a file, and its client is told on the control
connection how it has ended. What is done with any of these is done for it.

* `StepRun.serves`: all that happens in a step is done for the transfer;
* `Session.Carries.doneFor_eq_nil`: a deed that is not about the session does nothing for it;
* `Session.Carries.givenUp`: what is done for it when the session is closed.
-/

namespace Ftp

open Program

/-- What a transfer goes through: the control connection of its session, its data connection and
its file. -/
structure Conduit where
  control : Socket
  socket : Socket
  file : File

/-- The data connection and the file are closed. -/
def Conduit.closing (conduit : Conduit) : List Event :=
  [⟨.closeSocket conduit.socket, ()⟩, ⟨.closeFile conduit.file, ()⟩]

/-- The reply that concludes a transfer, and the release of what it goes through. -/
def Conduit.ending (conduit : Conduit) (code : Nat) (text : Text) : List Event :=
  said conduit.control code text :: conduit.closing

/-- The request is one for the transfer: it works on the data connection or on the file, or tells
the client how the transfer has ended. -/
def Request.serves (conduit : Conduit) : Request → Bool
  | .send socket _ | .receive socket _ | .closeSocket socket => socket = conduit.socket
  | .readFile file _ | .writeFile file _ | .closeFile file => file = conduit.file
  | .reply control message => control = conduit.control && message.concludes
  | _ => false

/-- What is done in some events for the transfer. -/
def doneFor (conduit : Conduit) (events : List Event) : List Event :=
  events.filter fun event => event.request.serves conduit

/-- The transmission is of the file, over the data connection. -/
def Transmission.Through (conduit : Conduit) : Transmission → Prop
  | .idle => False
  | .retrieving file socket _ | .storing file socket =>
    file = conduit.file ∧ socket = conduit.socket

section Conduits

variable {conduit : Conduit} {chunkSize : Nat} {transmission transmission' : Transmission}
  {events : List Event}

@[simp] theorem doneFor_append (events more : List Event) :
    doneFor conduit (events ++ more) = doneFor conduit events ++ doneFor conduit more :=
  List.filter_append ..

theorem doneFor_eq_self (h : ∀ event ∈ events, event.request.serves conduit = true) :
    doneFor conduit events = events :=
  List.filter_eq_self.2 h

theorem doneFor_eq_nil (h : ∀ event ∈ events, event.request.serves conduit = false) :
    doneFor conduit events = [] :=
  List.filter_eq_nil_iff.2 fun event hmem => by simp [h event hmem]

/-- A look at the clock is nothing to the transfer. -/
@[simp] theorem doneFor_clock (now : Int) (events : List Event) :
    doneFor conduit (⟨.unixTime, now⟩ :: events) = doneFor conduit events :=
  List.filter_cons_of_neg Bool.false_ne_true

/-- So is a reply that does not tell how it has ended. -/
theorem doneFor_said {code : Nat} {text : Text} (control : Socket)
    (h : (Reply.line code text).concludes = false) :
    doneFor conduit [said control code text] = [] :=
  doneFor_eq_nil fun event hmem => by
    rw [List.mem_singleton.1 hmem]
    simp [Request.serves, h]

theorem Transmission.Through.released (h : transmission.Through conduit) :
    transmission.released = conduit.closing := by
  cases transmission with
  | idle => exact h.elim
  | retrieving | storing =>
    obtain ⟨rfl, rfl⟩ := h
    rfl

theorem serves_of_closing : ∀ event ∈ conduit.closing, event.request.serves conduit = true := by
  simp [Conduit.closing, Request.serves]

theorem RetrieveRun.serves {remaining : Nat} {left : Option Nat}
    (h : RetrieveRun conduit.control conduit.socket conduit.file chunkSize remaining events left) :
    ∀ event ∈ events, event.request.serves conduit = true := by
  cases h <;> simp [Request.serves, Reply.concludes, Reply.code]

theorem ReceiveRun.serves {attempts space : Nat} {bytes : List UInt8}
    {state : Transfer.StreamState}
    (h : ReceiveRun conduit.socket attempts space events bytes state) :
    ∀ event ∈ events, event.request.serves conduit = true := by
  intro event hmem
  obtain ⟨limit, hrequest⟩ := h.request_eq event hmem
  rw [hrequest]
  exact decide_eq_true rfl

/-- In a step of an upload, what is received is followed by nothing but a write and the reply that
concludes the upload. -/
theorem StoreRun.exists_received {control socket : Socket} {file : File} {goesOn : Bool}
    (h : StoreRun control socket file chunkSize events goesOn) :
    ∃ received rest bytes state, events = received ++ rest ∧
      ReceiveRun socket (chunkSize + Transfer.patience) chunkSize received bytes state ∧
      ∀ event ∈ rest, (∃ bytes, event.request = .writeFile file bytes) ∨
        ∃ message, message.concludes = true ∧ event.request = .reply control message := by
  cases h with
  | failed hreceive =>
    refine ⟨_, _, _, _, rfl, hreceive, fun event hmem => ?_⟩
    simp only [List.mem_cons, List.not_mem_nil, or_false] at hmem
    rcases hmem with rfl | rfl
    · exact .inl ⟨_, rfl⟩
    · exact .inr ⟨_, rfl, rfl⟩
  | @stored received bytes state hreceive =>
    refine ⟨_, _, _, _, List.append_assoc .., hreceive, fun event hmem => ?_⟩
    rcases List.mem_append.1 hmem with hmem | hmem
    · unfold written at hmem
      split at hmem
      · cases hmem
      · exact .inl ⟨bytes, congrArg Event.request (List.mem_singleton.1 hmem)⟩
    · cases state with
      | alive => cases hmem
      | ended | broken =>
        exact .inr ⟨_, rfl, congrArg Event.request (List.mem_singleton.1 hmem)⟩

theorem StoreRun.serves {goesOn : Bool}
    (h : StoreRun conduit.control conduit.socket conduit.file chunkSize events goesOn) :
    ∀ event ∈ events, event.request.serves conduit = true := by
  obtain ⟨received, rest, bytes, state, rfl, hreceive, hrest⟩ := h.exists_received
  intro event hmem
  rcases List.mem_append.1 hmem with hmem | hmem
  · exact hreceive.serves event hmem
  · rcases hrest event hmem with ⟨bytes, hrequest⟩ | ⟨message, hconcludes, hrequest⟩
    · rw [hrequest]
      exact decide_eq_true rfl
    · rw [hrequest]
      simp [Request.serves, hconcludes]

/-- All that happens in a step is done for the transfer. -/
theorem StepRun.serves (h : StepRun chunkSize conduit.control transmission events transmission')
    (through : transmission.Through conduit) :
    ∀ event ∈ events, event.request.serves conduit = true := by
  have hreleased := through.released
  cases h with
  | retrieved h | stored h =>
    obtain ⟨rfl, rfl⟩ := through
    exact h.serves
  | downloaded h | uploaded h =>
    obtain ⟨rfl, rfl⟩ := through
    rw [hreleased]
    intro event hmem
    exact (List.mem_append.1 hmem).elim (h.serves event) (serves_of_closing event)

theorem StepRun.through (h : StepRun chunkSize conduit.control transmission events transmission')
    (through : transmission.Through conduit) (hactive : transmission'.isActive = true) :
    transmission'.Through conduit := by
  cases h with
  | retrieved | stored => exact through
  | downloaded | uploaded => cases hactive

end Conduits

/-- The session has the transfer. -/
structure Session.Carries (session : Session) (conduit : Conduit) : Prop where
  control : session.control = conduit.control
  through : session.transmission.Through conduit

/-! ## Other deeds -/

section Deeds

variable {server server' : Server} {deed : Deed} {slot : Nat} {session session' : Session}
  {conduit : Conduit} {events : List Event} {opened : Multiset Handle}

/-- A deed that is not about a session leaves it as it is. -/
theorem Outcome.get?_of_foreign (h : Outcome server deed server')
    (get : server.sessions.get? slot = some session) (hdeed : deed.slot? ≠ some slot) :
    server'.sessions.get? slot = some session := by
  cases h with
  | nothing | started | registered | unlistened => exact get
  | admitted hinsert =>
    obtain ⟨hlt, hnone, rfl⟩ := SessionTable.insert_eq_ok hinsert
    rw [SessionTable.get?_put hlt, if_neg, get]
    rintro rfl
    rw [hnone] at get
    cases get
  | changed hget hbecomes =>
    have hslot := hbecomes.sameClient.slot
    cases hbecomes with
    | kept =>
      rw [SessionTable.put_of_get? hget]
      exact get
    | advanced | received | heard =>
      rw [SessionTable.get?_put_of_ne, get]
      rw [hslot]
      rintro rfl
      exact hdeed rfl
  | closed h =>
    rw [SessionTable.get?_erase_of_ne, get]
    rintro rfl
    rcases h with rfl | rfl <;> exact hdeed rfl

theorem Outcome.config_eq (h : Outcome server deed server') : server'.config = server.config := by
  cases h <;> rfl

/-- The handles of a session with a transfer. -/
theorem Session.Carries.handles_eq (h : session.Carries conduit) :
    session.handles = {.socket conduit.control} + listenerHandles session.passiveListener +
      ({.socket conduit.socket} + {.file conduit.file}) := by
  have hhandles : session.transmission.handles =
      {.socket conduit.socket} + {.file conduit.file} := by
    have through := h.through
    cases htransmission : session.transmission with
    | idle =>
      rw [htransmission] at through
      exact through.elim
    | retrieving | storing =>
      rw [htransmission] at through
      obtain ⟨rfl, rfl⟩ := through
      rfl
  rw [Session.handles, h.control, hhandles]

/-- What is done for a transfer is done with a handle of its session. -/
theorem Session.Carries.exists_handle (h : session.Carries conduit) {r : Request}
    (hserves : r.serves conduit = true) : ∃ handle ∈ r.uses, handle ∈ session.handles := by
  rw [h.handles_eq]
  cases r with
  | send | receive | closeSocket =>
    obtain rfl := of_decide_eq_true hserves
    exact ⟨.socket conduit.socket, List.mem_singleton_self _, by simp⟩
  | readFile | writeFile | closeFile =>
    obtain rfl := of_decide_eq_true hserves
    exact ⟨.file conduit.file, List.mem_singleton_self _, by simp⟩
  | reply control message =>
    obtain rfl := of_decide_eq_true (Bool.and_eq_true_iff.1 hserves).1
    exact ⟨.socket conduit.control, List.mem_singleton_self _, by simp⟩
  | _ => cases hserves

/-- The data connection is neither the control connection nor the passive listener. -/
theorem Session.Carries.socket_notMem (h : session.Carries conduit)
    (hnodup : session.handles.Nodup) :
    Handle.socket conduit.socket ∉
      ({.socket conduit.control} + listenerHandles session.passiveListener : Multiset Handle) := by
  rw [h.handles_eq] at hnodup
  exact Multiset.disjoint_right.1 (Multiset.nodup_add.1 hnodup).2.2 (by simp)

theorem Server.Owned.nodup_handles (h : server.Owned opened)
    (get : server.sessions.get? slot = some session) : session.handles.Nodup :=
  Multiset.nodup_of_le (h.le_opened get) h.nodup

/-- Waiting for the clients is all that is done with the handles of all of them. -/
theorem exec_poll (run : Exec (server.perform .poll) events server') :
    ∀ event ∈ events, ∃ sockets wait, event.request = .poll sockets wait := by
  simp only [Server.perform, Server.onListener] at run
  split at run
  · rw [(exec_done_iff.1 run).1]
    exact fun event hmem => by cases hmem
  · simp only [Server.pollReady, request, ask_bind, done_bind, exec_ask_iff] at run
    obtain ⟨ready, rest, rfl, hrest⟩ := run
    cases ready <;>
    · rw [(exec_done_iff.1 hrest).1]
      exact fun event hmem => ⟨_, _, congrArg Event.request (List.mem_singleton.1 hmem)⟩

/-- A deed that is not about the session does nothing for its transfer. -/
theorem Session.Carries.doneFor_eq_nil (h : session.Carries conduit) (owned : server.Owned opened)
    (run : Exec (server.perform deed) events server') (hfresh : ownership.Follows opened events)
    (get : server.sessions.get? slot = some session) (hdeed : deed.slot? ≠ some slot) :
    doneFor conduit events = [] := by
  by_cases hpoll : deed = .poll
  · subst hpoll
    refine Ftp.doneFor_eq_nil fun event hmem => ?_
    obtain ⟨sockets, wait, hrequest⟩ := exec_poll run event hmem
    rw [hrequest]
    rfl
  · refine Ftp.doneFor_eq_nil fun event hmem => ?_
    cases hserves : event.request.serves conduit with
    | false => rfl
    | true =>
      obtain ⟨handle, huses, howned⟩ := h.exists_handle hserves
      exact absurd howned (untouched owned run hfresh get hdeed hpoll event hmem handle huses)

/-! ## Deeds about the session -/

/-- The passive listener of the session is closed, and its port forwarded no more. -/
def Session.passiveClosed (session : Session) : List Event :=
  (session.passiveListener.map fun listener => ⟨.closeSocket listener, ()⟩).toList ++
    (session.forwardedPort.map fun port => ⟨.removeForward port, ()⟩).toList

theorem repliesIn_passiveClosed (session : Session) : repliesIn session.passiveClosed = [] := by
  unfold Session.passiveClosed
  cases session.passiveListener <;> cases session.forwardedPort <;> rfl

theorem plays_closePassive (session : Session) :
    (DataChannel.closePassive session).Plays session.passiveClosed
      { session with passiveListener := none, forwardedPort := none } := by
  have hlistener : (DataChannel.closeListener session.passiveListener).Plays
      (session.passiveListener.map fun listener => ⟨.closeSocket listener, ()⟩).toList () := by
    cases session.passiveListener with
    | none => exact plays_done ()
    | some listener => exact plays_request fun _ => rfl
  have hforward : (DataChannel.dropForward session.forwardedPort).Plays
      (session.forwardedPort.map fun port => ⟨.removeForward port, ()⟩).toList () := by
    cases session.forwardedPort with
    | none => exact plays_done ()
    | some port => exact plays_request fun _ => rfl
  exact hlistener.bind (hforward.map _)

/-- Everything that the session owns is closed. -/
def Session.dismantled (session : Session) : List Event :=
  session.transmission.released ++
    (session.passiveClosed ++ [⟨.closeSocket session.control, ()⟩])

theorem repliesIn_dismantled (session : Session) : repliesIn session.dismantled = [] := by
  rw [Session.dismantled, repliesIn_append, repliesIn_append, repliesIn_released,
    repliesIn_passiveClosed]
  rfl

/-- The client is told that its time is up, and everything that the session owns is closed. -/
def Session.farewell (session : Session) : List Event :=
  said session.control 421 "Timeout." :: session.dismantled

theorem repliesIn_farewell (session : Session) :
    repliesIn session.farewell = [(session.control, .line 421 "Timeout.")] := by
  rw [Session.farewell, repliesIn_cons, repliesIn_dismantled]
  rfl

theorem plays_close_of_get? {table : SessionTable} (get : table.get? slot = some session) :
    (table.close slot).Plays session.dismantled (true, table.erase slot) := by
  unfold SessionTable.close
  rw [get]
  refine (plays_close session).bind ((plays_closePassive _).bind ?_)
  exact (plays_request (r := .closeSocket session.control) fun _ => rfl).map _

theorem plays_closeSlot {table : SessionTable} (get : table.get? slot = some session) :
    (Server.closeSlot slot table).Plays session.dismantled (table.erase slot) :=
  (plays_close_of_get? get).map Prod.snd

theorem plays_perform_close (get : server.sessions.get? slot = some session) :
    (server.perform (.close slot)).Plays session.dismantled
      { server with sessions := server.sessions.erase slot } :=
  (plays_closeSlot get).map _

theorem plays_perform_expire (get : server.sessions.get? slot = some session) :
    (server.perform (.expire slot)).Plays session.farewell
      { server with sessions := server.sessions.erase slot } := by
  rw [Server.perform, Server.onSession_eq get]
  exact ((plays_say session 421 "Timeout.").bind (plays_closeSlot get)).map _

/-- A session leaves by being closed, whether or not it is told so. -/
theorem exec_departure (placed : server.sessions.Placed) (hdeed : deed.slot? = some slot)
    (get : server.sessions.get? slot = some session)
    (run : Exec (server.perform deed) events server')
    (gone : server'.sessions.get? slot = none) :
    events = session.dismantled ∨ events = session.farewell := by
  cases deed with
  | start | register | poll | accept | readClock | unlisten => cases hdeed
  | advance =>
    cases hdeed
    obtain ⟨_, _, -, hstays⟩ := exec_advance placed get run
    cases gone.symm.trans hstays
  | receive =>
    cases hdeed
    obtain ⟨_, _, -, hstays⟩ := exec_receive placed get run
    cases gone.symm.trans hstays
  | serve =>
    cases hdeed
    obtain ⟨_, _, -, hstays⟩ := exec_serve placed get run
    cases gone.symm.trans hstays
  | close =>
    cases hdeed
    exact .inl ((plays_perform_close get).eq_of_exec run).1
  | expire =>
    cases hdeed
    exact .inr ((plays_perform_expire get).eq_of_exec run).1

/-- What is closed with a session and is not of its transfer. -/
theorem Session.Carries.doneFor_closed (h : session.Carries conduit)
    (hnodup : session.handles.Nodup) :
    doneFor conduit (session.passiveClosed ++ [⟨.closeSocket session.control, ()⟩]) = [] := by
  have hapart := h.socket_notMem hnodup
  have hcontrol : session.control ≠ conduit.socket := by
    rintro heq
    simp [← h.control, heq] at hapart
  have hlistener : ∀ listener, session.passiveListener = some listener →
      listener ≠ conduit.socket := by
    rintro listener hpassive rfl
    simp [hpassive, listenerHandles] at hapart
  refine Ftp.doneFor_eq_nil fun event hmem => ?_
  simp only [Session.passiveClosed, List.mem_append, Option.mem_toList, Option.map_eq_some_iff,
    List.mem_singleton] at hmem
  rcases hmem with (⟨listener, hpassive, rfl⟩ | ⟨port, -, rfl⟩) | rfl
  · simpa [Request.serves] using hlistener listener hpassive
  · rfl
  · simpa [Request.serves] using hcontrol

/-- The transfer is given up in the entry: the client asks for it, or leaves, or is left. -/
inductive GivenUp (slot : Nat) (conduit : Conduit) (entry : Entry) (server' : Server) : Prop
  | aborted {session' : Session} (deed : entry.deed = .serve slot)
    (get : server'.sessions.get? slot = some session') (idle : session'.isTransferring = false)
    (done : doneFor conduit entry.events =
      conduit.closing ++ [said conduit.control 226 "ABOR successful."])
  | closed (deed : entry.deed = .close slot ∨ entry.deed = .expire slot)
    (gone : server'.sessions.get? slot = none)
    (done : doneFor conduit entry.events = conduit.closing)

/-- When a session is closed its transfer is. -/
theorem Session.Carries.givenUp (h : session.Carries conduit) (hnodup : session.handles.Nodup)
    (hdeed : deed = .close slot ∨ deed = .expire slot)
    (get : server.sessions.get? slot = some session)
    (run : Exec (server.perform deed) events server') :
    GivenUp slot conduit ⟨server, deed, events⟩ server' := by
  refine .closed hdeed (get?_of_close hdeed run) ?_
  have hclose : ∀ rest, Exec (Server.closeSlot slot server.sessions >>= fun sessions =>
      Program.done { server with sessions }) rest server' →
        doneFor conduit rest = conduit.closing := by
    intro rest hrest
    obtain ⟨_, rfl, hdone⟩ := (plays_closeSlot get).of_bind hrest
    rw [(exec_done_iff.1 hdone).1, List.append_nil, Session.dismantled, doneFor_append,
      h.doneFor_closed hnodup, List.append_nil, h.through.released]
    exact Ftp.doneFor_eq_self serves_of_closing
  rcases hdeed with rfl | rfl
  · exact hclose events run
  · simp only [Server.perform, Server.onSession_eq get, LawfulMonad.bind_assoc] at run
    obtain ⟨rest, rfl, hrest⟩ := (plays_say session 421 _).of_bind run
    rw [doneFor_append, doneFor_said _ rfl, List.nil_append]
    exact hclose rest hrest

end Deeds

end Ftp
