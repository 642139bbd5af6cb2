import Ftp.Proofs.Lifetime
import Ftp.Proofs.Mediation

/-!
# Transcripts of transfers

What is asked and answered for a transfer, in order: when its data connection is made, in each of
its steps, and in each line that is served between them.

* `exec_establish`: a data connection, to where the session says or from where it listens;
* `exec_retrieveStep`, `exec_receiveUpTo`, `exec_storeStep`: a chunk that goes out, what has come
  in, a chunk that is stored;
* `exec_step`: a step of either kind of transfer;
* `exec_dispatch`, `exec_processInput`: a line, and the next line of the input;
* `exec_dispatch_transferring`: a line that is served during a transfer.
-/

namespace Ftp

open Program

/-- A reply of one line. -/
abbrev said (control : Socket) (code : Nat) (text : Text) : Event :=
  ⟨.reply control (.line code text), ()⟩

theorem exec_request {r : Request} {events : List Event} {answer : r.Answer}
    (run : Exec (request r) events answer) : events = [⟨r, answer⟩] := by
  obtain ⟨_, _, rfl, hdone⟩ := exec_ask_iff.1 run
  obtain ⟨rfl, rfl⟩ := exec_done_iff.1 hdone
  rfl

/-- The program has but one run. -/
structure Program.Plays {α : Type} (program : Program α) (known : List Event) (value : α) :
    Prop where
  exec : Exec program known value
  eq_of_exec : ∀ {events result}, Exec program events result → events = known ∧ result = value

section Plays

variable {α β : Type} {known : List Event} {program : Program α} {value : α}

/-- What follows the program has the rest of the run. -/
theorem Program.Plays.of_bind (h : program.Plays known value) {next : α → Program β}
    {events : List Event} {result : β} (run : Exec (program >>= next) events result) :
    ∃ rest, events = known ++ rest ∧ Exec (next value) rest result := by
  obtain ⟨_, _, rest, rfl, hprogram, hnext⟩ := Exec.bind_iff.1 run
  obtain ⟨rfl, rfl⟩ := h.eq_of_exec hprogram
  exact ⟨rest, rfl, hnext⟩

theorem Program.Plays.bind (h : program.Plays known value) {next : α → Program β}
    {rest : List Event} {result : β} (hnext : (next value).Plays rest result) :
    (program >>= next).Plays (known ++ rest) result where
  exec := Exec.bind_iff.2 ⟨_, _, _, rfl, h.exec, hnext.exec⟩
  eq_of_exec run := by
    obtain ⟨_, rfl, hrest⟩ := h.of_bind run
    obtain ⟨rfl, rfl⟩ := hnext.eq_of_exec hrest
    exact ⟨rfl, rfl⟩

theorem plays_done (value : α) : (Program.done value).Plays [] value :=
  ⟨.done value, fun run => exec_done_iff.1 run⟩

theorem Program.Plays.map (h : program.Plays known value) (f : α → β) :
    (program >>= fun value => Program.done (f value)).Plays known (f value) := by
  have hdone : (program >>= fun value => Program.done (f value)).Plays (known ++ []) (f value) :=
    h.bind (plays_done (f value))
  rwa [List.append_nil] at hdone

/-- A request that can only be answered in one way. -/
theorem plays_request {r : Request} {answer : r.Answer} (h : ∀ other : r.Answer, other = answer) :
    (request r).Plays [⟨r, answer⟩] answer where
  exec := .ask (.done answer)
  eq_of_exec run := by
    obtain ⟨other, _, rfl, hdone⟩ := exec_ask_iff.1 run
    obtain rfl := h other
    obtain ⟨rfl, rfl⟩ := exec_done_iff.1 hdone
    exact ⟨rfl, rfl⟩

theorem plays_reply (session : Session) (reply : Reply) :
    (session.reply reply).Plays [⟨.reply session.control reply, ()⟩] () :=
  plays_request fun _ => rfl

theorem plays_say (session : Session) (code : Nat) (text : Text) :
    (session.say code text).Plays [said session.control code text] () :=
  plays_reply session (.line code text)

theorem plays_fail (session : Session) (code : Nat) (text : Text) :
    (session.fail code text).Plays [said session.control code text] (.failure text, session) :=
  (plays_say session code text).map _

theorem plays_succeed (session : Session) (code : Nat) (text : Text) :
    (session.succeed code text).Plays [said session.control code text] (.success, session) :=
  (plays_say session code text).map _

/-- The data connection and the file are closed. -/
def Transmission.released : Transmission → List Event
  | .idle => []
  | .retrieving file socket _ | .storing file socket =>
    [⟨.closeSocket socket, ()⟩, ⟨.closeFile file, ()⟩]

theorem plays_release (transmission : Transmission) :
    (Transfer.release transmission).Plays transmission.released () := by
  cases transmission with
  | idle => exact plays_done ()
  | retrieving file socket | storing file socket =>
    exact (plays_request fun _ => rfl).bind (plays_request fun _ => rfl)

theorem plays_close (session : Session) :
    (Transfer.close session).Plays session.transmission.released
      { session with transmission := .idle } :=
  (plays_release session.transmission).map _

theorem plays_finish (session : Session) :
    (Transfer.finish session).Plays session.transmission.released
      (.finished, { session with transmission := .idle }) :=
  (plays_close session).map _

theorem plays_concludeRetrieve (session : Session) (code : Nat) (text : Text) :
    (Transfer.concludeRetrieve session code text).Plays [said session.control code text] none :=
  (plays_say session code text).map _

theorem plays_concludeStore (session : Session) (code : Nat) (text : Text) :
    (Transfer.concludeStore session code text).Plays [said session.control code text] false :=
  (plays_say session code text).map _

end Plays

/-! ## Data connections -/

/-- Where the data connections of a session come from. -/
inductive Target where
  | unset
  /-- They are opened to this port of the client. -/
  | client (port : UInt16)
  /-- They are accepted on this listener. -/
  | listener (listener : Socket)
  /-- The listener is gone. -/
  | lost
  deriving DecidableEq, Repr

def Session.target (session : Session) : Target :=
  if session.passive then
    match session.passiveListener with
    | some listener => .listener listener
    | none => .lost
  else if session.remoteDataPort = 0 then .unset
  else .client session.remoteDataPort

/-- The runs of making a data connection with a client. -/
inductive EstablishRun (wait : Nat) (client : IPv4) :
    Target → List Event → Except TransferError Socket → Prop
  | unset : EstablishRun wait client .unset [] (.error .noDataTarget)
  | lost : EstablishRun wait client .lost [] (.error .noDataTarget)
  | nobody (listener : Socket) (cause : IoError) :
    EstablishRun wait client (.listener listener) [⟨.accept listener wait, .error cause⟩]
      (.error (.dataConnection cause))
  | rejected (listener socket : Socket) (peer : Endpoint) :
    EstablishRun wait client (.listener listener)
      [⟨.accept listener wait, .ok (socket, peer)⟩, ⟨.admits peer.ip, false⟩,
        ⟨.closeSocket socket, ()⟩]
      (.error (.clientRejected peer))
  | accepted (listener socket : Socket) (peer : Endpoint) :
    EstablishRun wait client (.listener listener)
      [⟨.accept listener wait, .ok (socket, peer)⟩, ⟨.admits peer.ip, true⟩] (.ok socket)
  | refused (port : UInt16) (cause : IoError) :
    EstablishRun wait client (.client port) [⟨.connect ⟨client, port⟩ wait, .error cause⟩]
      (.error (.dataConnection cause))
  | connected (port : UInt16) (socket : Socket) :
    EstablishRun wait client (.client port) [⟨.connect ⟨client, port⟩ wait, .ok socket⟩]
      (.ok socket)

theorem exec_establish {setting : Setting} {session : Session} {events : List Event}
    {result : Except TransferError Socket}
    (run : Exec (DataChannel.establish setting session) events result) :
    EstablishRun setting.config.connectWait session.remote.ip session.target events result := by
  unfold DataChannel.establish at run
  unfold Session.target
  split at run
  · rename_i hpassive
    rw [if_pos hpassive]
    cases hlistener : session.passiveListener with
    | some listener =>
      rw [hlistener] at run
      simp only [DataChannel.acceptFrom, request, ask_bind, done_bind, exec_ask_iff] at run
      obtain ⟨accepted, _, rfl, run⟩ := run
      cases accepted with
      | error cause =>
        obtain ⟨rfl, rfl⟩ := exec_done_iff.1 run
        exact .nobody listener cause
      | ok client =>
        obtain ⟨admitted, _, rfl, hadmitted⟩ := exec_ask_iff.1 run
        cases admitted with
        | true =>
          obtain ⟨rfl, rfl⟩ := exec_done_iff.1 hadmitted
          exact .accepted listener client.1 client.2
        | false =>
          obtain ⟨_, _, rfl, hdone⟩ := exec_ask_iff.1 hadmitted
          obtain ⟨rfl, rfl⟩ := exec_done_iff.1 hdone
          exact .rejected listener client.1 client.2
    | none =>
      rw [hlistener] at run
      obtain ⟨rfl, rfl⟩ := exec_done_iff.1 run
      exact .lost
  · rename_i hpassive
    rw [if_neg hpassive]
    split at run
    · rename_i hport
      obtain ⟨rfl, rfl⟩ := exec_done_iff.1 run
      rw [if_pos hport]
      exact .unset
    · rename_i hport
      rw [if_neg hport]
      simp only [DataChannel.connectTo, request, ask_bind, done_bind, exec_ask_iff] at run
      obtain ⟨connected, _, rfl, run⟩ := run
      cases connected with
      | error cause =>
        obtain ⟨rfl, rfl⟩ := exec_done_iff.1 run
        exact .refused _ cause
      | ok socket =>
        obtain ⟨rfl, rfl⟩ := exec_done_iff.1 run
        exact .connected _ socket

/-! ## Downloads -/

section Download

variable (control socket : Socket) (file : File) (chunkSize remaining : Nat)

/-- The runs of one step of a download, with what is left after it unless it is the last. -/
inductive RetrieveRun : List Event → Option Nat → Prop
  /-- There was nothing to send. -/
  | empty (h : remaining = 0) : RetrieveRun [said control 226 "Transfer complete."] none
  | unreadable (h : remaining ≠ 0) (error : IoError) :
    RetrieveRun
      [⟨.readFile file (min chunkSize remaining), .error error⟩,
        said control 451 "Error reading file."] none
  /-- The file has ended early. -/
  | exhausted (h : remaining ≠ 0) {chunk : Chunk (min chunkSize remaining)}
    (hchunk : chunk.bytes = []) :
    RetrieveRun
      [⟨.readFile file (min chunkSize remaining), .ok chunk⟩,
        said control 451 "Error reading file."] none
  | broken (h : remaining ≠ 0) {chunk : Chunk (min chunkSize remaining)}
    (hchunk : chunk.bytes ≠ []) (error : IoError) :
    RetrieveRun
      [⟨.readFile file (min chunkSize remaining), .ok chunk⟩,
        ⟨.send socket chunk.bytes, .error error⟩,
        said control 426 "Data connection error."] none
  | completed (h : remaining ≠ 0) {chunk : Chunk (min chunkSize remaining)}
    (hchunk : chunk.bytes ≠ []) (hleft : remaining - chunk.bytes.length = 0) :
    RetrieveRun
      [⟨.readFile file (min chunkSize remaining), .ok chunk⟩,
        ⟨.send socket chunk.bytes, .ok ()⟩,
        said control 226 "Transfer complete."] none
  | sent (h : remaining ≠ 0) {chunk : Chunk (min chunkSize remaining)}
    (hchunk : chunk.bytes ≠ []) (hleft : remaining - chunk.bytes.length ≠ 0) :
    RetrieveRun
      [⟨.readFile file (min chunkSize remaining), .ok chunk⟩,
        ⟨.send socket chunk.bytes, .ok ()⟩] (some (remaining - chunk.bytes.length))

end Download

theorem exec_retrieveStep {setting : Setting} {session : Session} {file : File} {socket : Socket}
    {remaining : Nat} {events : List Event} {left : Option Nat}
    (run : Exec (Transfer.retrieveStep setting session file socket remaining) events left) :
    RetrieveRun session.control socket file setting.config.chunkSize.toNat remaining events
      left := by
  unfold Transfer.retrieveStep at run
  split at run
  · rename_i hempty
    obtain ⟨rfl, rfl⟩ := (plays_concludeRetrieve ..).eq_of_exec run
    exact .empty hempty
  · rename_i hleft
    simp only [request, ask_bind, done_bind, exec_ask_iff] at run
    obtain ⟨read, _, rfl, run⟩ := run
    cases read with
    | error error =>
      obtain ⟨rfl, rfl⟩ := (plays_concludeRetrieve ..).eq_of_exec run
      exact .unreadable hleft error
    | ok chunk =>
      simp only [] at run
      split at run
      · rename_i hchunk
        obtain ⟨rfl, rfl⟩ := (plays_concludeRetrieve ..).eq_of_exec run
        exact .exhausted hleft hchunk
      · rename_i hchunk
        obtain ⟨sent, _, rfl, sending⟩ := exec_ask_iff.1 run
        cases sent with
        | error error =>
          obtain ⟨rfl, rfl⟩ := (plays_concludeRetrieve ..).eq_of_exec sending
          exact .broken hleft hchunk error
        | ok =>
          simp only [] at sending
          split at sending
          · rename_i hdone
            obtain ⟨rfl, rfl⟩ := (plays_concludeRetrieve ..).eq_of_exec sending
            exact .completed hleft hchunk hdone
          · rename_i hmore
            obtain ⟨rfl, rfl⟩ := exec_done_iff.1 sending
            exact .sent hleft hchunk hmore

/-! ## Uploads -/

/-- The runs of taking what has arrived, with the bytes and how the connection stands then. -/
inductive ReceiveRun (socket : Socket) :
    (attempts space : Nat) → List Event → List UInt8 → Transfer.StreamState → Prop
  | enough {attempts space : Nat} (h : attempts = 0 ∨ space = 0) :
    ReceiveRun socket attempts space [] [] .alive
  | ended {attempts space : Nat} (h : space ≠ 0) {chunk : Chunk space}
    (hchunk : chunk.bytes = []) :
    ReceiveRun socket (attempts + 1) space [⟨.receive socket space, .ok chunk⟩] [] .ended
  | blocked {attempts space : Nat} (h : space ≠ 0) {error : IoError}
    (hkind : error.kind = .wouldBlock) :
    ReceiveRun socket (attempts + 1) space [⟨.receive socket space, .error error⟩] [] .alive
  | broken {attempts space : Nat} (h : space ≠ 0) {error : IoError}
    (hblocked : error.kind ≠ .wouldBlock) (hinterrupted : error.kind ≠ .interrupted) :
    ReceiveRun socket (attempts + 1) space [⟨.receive socket space, .error error⟩] [] .broken
  | interrupted {attempts space : Nat} {events : List Event} {bytes : List UInt8}
    {state : Transfer.StreamState} (h : space ≠ 0) {error : IoError}
    (hkind : error.kind = .interrupted)
    (rest : ReceiveRun socket attempts space events bytes state) :
    ReceiveRun socket (attempts + 1) space (⟨.receive socket space, .error error⟩ :: events) bytes
      state
  | piece {attempts space : Nat} {events : List Event} {bytes : List UInt8}
    {state : Transfer.StreamState} (h : space ≠ 0) {chunk : Chunk space} (hchunk : chunk.bytes ≠ [])
    (rest : ReceiveRun socket attempts (space - chunk.bytes.length) events bytes state) :
    ReceiveRun socket (attempts + 1) space (⟨.receive socket space, .ok chunk⟩ :: events)
      (chunk.bytes ++ bytes) state

/-- Nothing else happens in the meantime. -/
theorem ReceiveRun.request_eq {socket : Socket} {attempts space : Nat} {events : List Event}
    {bytes : List UInt8} {state : Transfer.StreamState}
    (h : ReceiveRun socket attempts space events bytes state) :
    ∀ event ∈ events, ∃ limit, event.request = .receive socket limit := by
  induction h with
  | enough => exact fun event hmem => by cases hmem
  | ended | blocked | broken =>
    exact fun event hmem => ⟨_, congrArg Event.request (List.mem_singleton.1 hmem)⟩
  | interrupted _ _ _ ih | piece _ _ _ ih =>
    intro event hmem
    rcases List.mem_cons.1 hmem with rfl | hmem
    · exact ⟨_, rfl⟩
    · exact ih event hmem

theorem exec_receiveUpTo {socket : Socket} {attempts space : Nat} {taken : List UInt8}
    {events : List Event} {result : List UInt8 × Transfer.StreamState}
    (run : Exec (Transfer.receiveUpTo socket attempts space taken) events result) :
    ∃ bytes, result.1 = taken.reverse ++ bytes ∧
      ReceiveRun socket attempts space events bytes result.2 := by
  induction attempts generalizing space taken events with
  | zero =>
    obtain ⟨rfl, rfl⟩ := exec_done_iff.1 run
    exact ⟨[], (List.append_nil _).symm, .enough (.inl rfl)⟩
  | succ attempts ih =>
    cases space with
    | zero =>
      obtain ⟨rfl, rfl⟩ := exec_done_iff.1 run
      exact ⟨[], (List.append_nil _).symm, .enough (.inr rfl)⟩
    | succ space =>
      have hspace : space + 1 ≠ 0 := Nat.succ_ne_zero space
      simp only [Transfer.receiveUpTo, request, ask_bind, done_bind, exec_ask_iff] at run
      obtain ⟨received, _, rfl, run⟩ := run
      cases received with
      | ok chunk =>
        simp only [] at run
        split at run
        · rename_i hchunk
          obtain ⟨rfl, rfl⟩ := exec_done_iff.1 run
          exact ⟨[], (List.append_nil _).symm, .ended hspace hchunk⟩
        · rename_i hchunk
          obtain ⟨bytes, hresult, hrest⟩ := ih run
          refine ⟨chunk.bytes ++ bytes, ?_, .piece hspace hchunk hrest⟩
          rw [hresult, List.reverse_append, List.reverse_reverse, List.append_assoc]
      | error error =>
        simp only [] at run
        split at run
        · rename_i hkind
          obtain ⟨rfl, rfl⟩ := exec_done_iff.1 run
          exact ⟨[], (List.append_nil _).symm, .blocked hspace hkind⟩
        · rename_i hkind
          obtain ⟨bytes, hresult, hrest⟩ := ih run
          exact ⟨bytes, hresult, .interrupted hspace hkind hrest⟩
        · rename_i hblocked hinterrupted
          obtain ⟨rfl, rfl⟩ := exec_done_iff.1 run
          exact ⟨[], (List.append_nil _).symm, .broken hspace hblocked hinterrupted⟩

/-- The bytes are written, if there are any. -/
def written (file : File) (bytes : List UInt8) : List Event :=
  if bytes = [] then [] else [⟨.writeFile file bytes, .ok ()⟩]

/-- What is said of an upload whose connection stands so. -/
def conclusion (control : Socket) : Transfer.StreamState → List Event
  | .alive => []
  | .ended => [said control 226 "Transfer complete."]
  | .broken => [said control 426 "Connection closed; transfer aborted."]

section Upload

variable (control socket : Socket) (file : File) (chunkSize : Nat)

/-- The runs of one step of an upload, and whether it goes on. -/
inductive StoreRun : List Event → Bool → Prop
  | failed {received : List Event} {bytes : List UInt8} {state : Transfer.StreamState}
    (h : ReceiveRun socket (chunkSize + Transfer.patience) chunkSize received bytes state)
    (hbytes : bytes ≠ []) (error : IoError) :
    StoreRun
      (received ++
        [⟨.writeFile file bytes, .error error⟩, said control 451 "Error writing file."]) false
  | stored {received : List Event} {bytes : List UInt8} {state : Transfer.StreamState}
    (h : ReceiveRun socket (chunkSize + Transfer.patience) chunkSize received bytes state) :
    StoreRun (received ++ written file bytes ++ conclusion control state)
      (decide (state = .alive))

end Upload

theorem exec_storeStep {setting : Setting} {session : Session} {file : File} {socket : Socket}
    {events : List Event} {goesOn : Bool}
    (run : Exec (Transfer.storeStep setting session file socket) events goesOn) :
    StoreRun session.control socket file setting.config.chunkSize.toNat events goesOn := by
  obtain ⟨received, ⟨bytes, state⟩, _, rfl, hreceive, hnext⟩ := Exec.bind_iff.1 run
  obtain ⟨_, rfl, hreceive⟩ := exec_receiveUpTo hreceive
  obtain ⟨writing, outcome, _, rfl, hwrite, hconclude⟩ := Exec.bind_iff.1 hnext
  cases outcome with
  | error error =>
    obtain ⟨rfl, rfl⟩ := (plays_concludeStore ..).eq_of_exec hconclude
    unfold Transfer.writeIfAny at hwrite
    split at hwrite
    · cases (exec_done_iff.1 hwrite).2
    · rename_i hbytes
      simp only [request, exec_ask_iff, exec_done_iff] at hwrite
      obtain ⟨_, _, rfl, rfl, rfl⟩ := hwrite
      exact .failed hreceive hbytes error
  | ok =>
    have hwriting : writing = written file bytes := by
      unfold Transfer.writeIfAny at hwrite
      unfold written
      split at hwrite
      · rename_i hbytes
        rw [if_pos hbytes, (exec_done_iff.1 hwrite).1]
      · rename_i hbytes
        simp only [request, exec_ask_iff, exec_done_iff] at hwrite
        obtain ⟨_, _, rfl, rfl, rfl⟩ := hwrite
        rw [if_neg hbytes]
    subst hwriting
    rw [← List.append_assoc]
    cases state with
    | alive =>
      obtain ⟨rfl, rfl⟩ := exec_done_iff.1 hconclude
      exact .stored hreceive
    | ended | broken =>
      obtain ⟨rfl, rfl⟩ := (plays_concludeStore ..).eq_of_exec hconclude
      exact .stored hreceive

/-! ## Steps -/

/-- The runs of a step of a transfer, after it has looked at the clock, with what is left of the
transfer. -/
inductive StepRun (chunkSize : Nat) (control : Socket) :
    Transmission → List Event → Transmission → Prop
  | retrieved {file : File} {socket : Socket} {remaining left : Nat} {events : List Event}
    (h : RetrieveRun control socket file chunkSize remaining events (some left)) :
    StepRun chunkSize control (.retrieving file socket remaining) events
      (.retrieving file socket left)
  | downloaded {file : File} {socket : Socket} {remaining : Nat} {events : List Event}
    (h : RetrieveRun control socket file chunkSize remaining events none) :
    StepRun chunkSize control (.retrieving file socket remaining)
      (events ++ (Transmission.retrieving file socket remaining).released) .idle
  | stored {file : File} {socket : Socket} {events : List Event}
    (h : StoreRun control socket file chunkSize events true) :
    StepRun chunkSize control (.storing file socket) events (.storing file socket)
  | uploaded {file : File} {socket : Socket} {events : List Event}
    (h : StoreRun control socket file chunkSize events false) :
    StepRun chunkSize control (.storing file socket)
      (events ++ (Transmission.storing file socket).released) .idle

section Sessions

variable {setting : Setting} {session session' : Session} {events : List Event}

/-- A step of a session with a transfer is one of the transfer. -/
theorem exec_step {outcome : StepOutcome} (hactive : session.isTransferring = true)
    (run : Exec (Transfer.step setting session) events (outcome, session')) :
    ∃ now moved transmission, events = ⟨.unixTime, now⟩ :: moved ∧
      StepRun setting.config.chunkSize.toNat session.control session.transmission moved
        transmission ∧
      session' = { session with lastCommand := now, transmission } ∧
      outcome = if transmission.isActive then .pending else .finished := by
  simp only [Transfer.step, request, ask_bind, done_bind, exec_ask_iff] at run
  obtain ⟨now, moved, rfl, run⟩ := run
  cases htransmission : session.transmission with
  | idle => simp [Session.isTransferring, htransmission, Transmission.isActive] at hactive
  | retrieving file socket remaining =>
    simp only [htransmission] at run
    obtain ⟨chunk, left?, _, rfl, hchunk, run⟩ := Exec.bind_iff.1 run
    have hretrieve := exec_retrieveStep hchunk
    cases left? with
    | some left =>
      obtain ⟨rfl, hresult⟩ := exec_done_iff.1 run
      cases hresult
      exact ⟨now, _, _, rfl, by simpa using .retrieved hretrieve, rfl, rfl⟩
    | none =>
      obtain ⟨rfl, hresult⟩ := (plays_finish _).eq_of_exec run
      cases hresult
      exact ⟨now, _, _, rfl, .downloaded hretrieve, rfl, rfl⟩
  | storing file socket =>
    simp only [htransmission] at run
    obtain ⟨chunk, goesOn, _, rfl, hchunk, run⟩ := Exec.bind_iff.1 run
    have hstore := exec_storeStep hchunk
    cases goesOn with
    | true =>
      obtain ⟨rfl, hresult⟩ := exec_done_iff.1 run
      cases hresult
      refine ⟨now, _, _, rfl, by simpa using .stored hstore, ?_, rfl⟩
      rw [← htransmission]
    | false =>
      obtain ⟨rfl, hresult⟩ := (plays_finish _).eq_of_exec run
      cases hresult
      exact ⟨now, _, _, rfl, .uploaded hstore, rfl, rfl⟩

/-- There is nothing to do in a step of a session without a transfer. -/
theorem exec_step_idle {outcome : StepOutcome} (hidle : session.isTransferring = false)
    (run : Exec (Transfer.step setting session) events (outcome, session')) :
    ∃ now, events = [⟨.unixTime, now⟩] ∧ session' = { session with lastCommand := now } := by
  simp only [Transfer.step, request, ask_bind, done_bind, exec_ask_iff] at run
  obtain ⟨now, rest, rfl, hrest⟩ := run
  cases htransmission : session.transmission with
  | idle =>
    simp only [htransmission] at hrest
    obtain ⟨rfl, hresult⟩ := exec_done_iff.1 hrest
    cases hresult
    exact ⟨now, rfl, by rw [← htransmission]⟩
  | retrieving | storing =>
    simp [Session.isTransferring, htransmission, Transmission.isActive] at hidle

/-! ## Lines -/

/-- A line that has been heard ends with a look at the clock. -/
theorem exec_touch_done {α : Type} {value : α} {result : α × Session}
    (run : Exec (Dispatch.touch session >>= fun session => Program.done (value, session)) events
      result) :
    ∃ now, events = [⟨.unixTime, now⟩] ∧
      result = (value, { session with lastCommand := now }) := by
  obtain ⟨now, rest, rfl, hdone⟩ := exec_ask_iff.1 run
  obtain ⟨rfl, rfl⟩ := exec_done_iff.1 hdone
  exact ⟨now, rfl, rfl⟩

/-- The runs of a line, down to the command that is run. -/
inductive DispatchRun (setting : Setting) (session : Session) (raw : Text) :
    List Event → Status × Session → Prop
  | unknown (find : Command.find? (Command.upperVerb raw) setting.config.extensions = none)
    (now : Int) :
    DispatchRun setting session raw [said session.control 500 raw, ⟨.unixTime, now⟩]
      (.failure "unknown command", { session with lastCommand := now })
  | notLoggedIn {command : Command}
    (find : Command.find? (Command.upperVerb raw) setting.config.extensions = some command)
    (verdict : Dispatch.verdict setting session command = .notLoggedIn) :
    DispatchRun setting session raw
      [said session.control 530 "Please login with USER and PASS."]
      (.failure "not logged in", session)
  | denied {command : Command}
    (find : Command.find? (Command.upperVerb raw) setting.config.extensions = some command)
    (verdict : Dispatch.verdict setting session command = .denied) :
    DispatchRun setting session raw [said session.control 550 "Permission denied."]
      (.failure "permission denied", session)
  | ignored {command : Command}
    (find : Command.find? (Command.upperVerb raw) setting.config.extensions = some command)
    (verdict : Dispatch.verdict setting session command = .ignored) :
    DispatchRun setting session raw [] (.success, session)
  | run {command : Command} {ran : List Event} {status : Status} {session' : Session}
    (find : Command.find? (Command.upperVerb raw) setting.config.extensions = some command)
    (verdict : Dispatch.verdict setting session command = .run)
    (run : Exec (command.run setting session (command.argument (Command.upperVerb raw))) ran
      (status, session'))
    (now : Int) :
    DispatchRun setting session raw (ran ++ [⟨.unixTime, now⟩])
      (status, { session' with lastCommand := now })

theorem exec_dispatch {raw : Text} {result : Status × Session}
    (run : Exec (Dispatch.dispatch setting session raw) events result) :
    DispatchRun setting session raw events result := by
  unfold Dispatch.dispatch at run
  cases hfind : Command.find? (Command.upperVerb raw) setting.config.extensions with
  | none =>
    simp only [hfind] at run
    obtain ⟨_, rfl, htouch⟩ := (plays_say ..).of_bind run
    obtain ⟨now, rfl, rfl⟩ := exec_touch_done htouch
    exact .unknown hfind now
  | some command =>
    simp only [hfind] at run
    cases hverdict : Dispatch.verdict setting session command with
    | notLoggedIn =>
      rw [hverdict] at run
      obtain ⟨_, rfl, hdone⟩ := (plays_say ..).of_bind run
      obtain ⟨rfl, rfl⟩ := exec_done_iff.1 hdone
      exact .notLoggedIn hfind hverdict
    | denied =>
      rw [hverdict] at run
      obtain ⟨_, rfl, hdone⟩ := (plays_say ..).of_bind run
      obtain ⟨rfl, rfl⟩ := exec_done_iff.1 hdone
      exact .denied hfind hverdict
    | ignored =>
      rw [hverdict] at run
      obtain ⟨rfl, rfl⟩ := exec_done_iff.1 run
      exact .ignored hfind hverdict
    | run =>
      rw [hverdict] at run
      obtain ⟨ran, ⟨status, session'⟩, _, rfl, hrun, htouch⟩ := Exec.bind_iff.1 run
      obtain ⟨now, rfl, rfl⟩ := exec_touch_done htouch
      exact .run hfind hverdict hrun now

/-- The runs of serving what a session has received. -/
inductive ServeRun (setting : Setting) (session : Session) :
    List Event → Status × Session → Prop
  | line {raw : Text} {input : LineBuffer} {events : List Event} {result : Status × Session}
    (next : session.input.nextLine? = some (raw, input))
    (run : Exec (Dispatch.dispatch setting { session with input } raw) events result) :
    ServeRun setting session events result
  | overlong (next : session.input.nextLine? = none)
    (overflowed : session.input.overflowed = true) :
    ServeRun setting session [said session.control 500 "Line too long."]
      (.failure "line too long", { session with input := session.input.dropLine })
  | nothing (next : session.input.nextLine? = none)
    (spare : session.input.overflowed = false) : ServeRun setting session [] (.success, session)

theorem exec_processInput {result : Status × Session}
    (run : Exec (Dispatch.processInput setting session) events result) :
    ServeRun setting session events result := by
  unfold Dispatch.processInput at run
  cases hnext : session.input.nextLine? with
  | some next =>
    rw [hnext] at run
    exact .line hnext run
  | none =>
    simp only [hnext] at run
    cases hoverflowed : session.input.overflowed with
    | true =>
      rw [if_pos hoverflowed] at run
      obtain ⟨_, rfl, hdone⟩ := (plays_say ..).of_bind run
      obtain ⟨rfl, rfl⟩ := exec_done_iff.1 hdone
      exact .overlong hnext hoverflowed
    | false =>
      rw [if_neg (by simp [hoverflowed])] at run
      obtain ⟨rfl, rfl⟩ := exec_done_iff.1 run
      exact .nothing hnext hoverflowed

/-! ## Lines during a transfer -/

/-- The runs of a line that is served while a transfer is going on. -/
inductive LineRun (setting : Setting) (session : Session) (raw : Text) :
    List Event → Status × Session → Prop
  | unknown (find : Command.find? (Command.upperVerb raw) setting.config.extensions = none)
    (now : Int) :
    LineRun setting session raw [said session.control 500 raw, ⟨.unixTime, now⟩]
      (.failure "unknown command", { session with lastCommand := now })
  | notLoggedIn {command : Command}
    (find : Command.find? (Command.upperVerb raw) setting.config.extensions = some command)
    (verdict : Dispatch.verdict setting session command = .notLoggedIn) :
    LineRun setting session raw [said session.control 530 "Please login with USER and PASS."]
      (.failure "not logged in", session)
  | denied {command : Command}
    (find : Command.find? (Command.upperVerb raw) setting.config.extensions = some command)
    (verdict : Dispatch.verdict setting session command = .denied) :
    LineRun setting session raw [said session.control 550 "Permission denied."]
      (.failure "permission denied", session)
  | ignored {command : Command}
    (find : Command.find? (Command.upperVerb raw) setting.config.extensions = some command)
    (verdict : Dispatch.verdict setting session command = .ignored) :
    LineRun setting session raw [] (.success, session)
  | abor (find : Command.find? (Command.upperVerb raw) setting.config.extensions = some .abor)
    (now : Int) :
    LineRun setting session raw
      (session.transmission.released ++
        [said session.control 226 "ABOR successful.", ⟨.unixTime, now⟩])
      (.success, { session with transmission := .idle, lastCommand := now })
  | quit (find : Command.find? (Command.upperVerb raw) setting.config.extensions = some .quit)
    (now : Int) :
    LineRun setting session raw [said session.control 221 "Goodbye.", ⟨.unixTime, now⟩]
      (.close, { session with lastCommand := now })

theorem plays_quit (session : Session) :
    (Action.quit session).Plays [said session.control 221 "Goodbye."] (.close, session) :=
  (plays_say ..).map _

theorem plays_abor (session : Session) :
    (Action.abor session).Plays
      (session.transmission.released ++ [said session.control 226 "ABOR successful."])
      (.success, { session with transmission := .idle }) :=
  (plays_close session).bind (plays_succeed ..)

theorem exec_dispatch_transferring {raw : Text} {result : Status × Session}
    (hactive : session.isTransferring = true)
    (run : Exec (Dispatch.dispatch setting session raw) events result) :
    LineRun setting session raw events result := by
  cases exec_dispatch run with
  | unknown find now => exact .unknown find now
  | notLoggedIn find verdict => exact .notLoggedIn find verdict
  | denied find verdict => exact .denied find verdict
  | ignored find verdict => exact .ignored find verdict
  | @run command _ _ _ find verdict hrun now =>
    have hduring : command.duringTransfer = true := by
      cases h : command.duringTransfer with
      | true => rfl
      | false =>
        rw [isTransferring_of_verdict verdict h] at hactive
        cases hactive
    cases command with
    | quit =>
      obtain ⟨rfl, hresult⟩ := (plays_quit session).eq_of_exec hrun
      cases hresult
      exact .quit find now
    | abor =>
      obtain ⟨rfl, hresult⟩ := (plays_abor session).eq_of_exec hrun
      cases hresult
      rw [List.append_assoc]
      exact .abor find now
    | _ => cases hduring

end Sessions

end Ftp
