import Ftp.Proofs.Flow

/-!
# Uploads

What arrives on the data connection of an upload is stored as it arrives, until the client has sent
everything, or the connection is lost, or the file cannot be written.

* `ReceiveRun.streamEnd`, `ReceiveRun.calls_le`: what is received in one step, and in how many
  calls;
* `Course.uploads`: an upload after any number of steps;
* `uploaded_of_reachable`: every upload over every history.
-/

namespace Ftp

open Program

/-- How the stream on a data connection breaks off, if it does. -/
inductive StreamEnd (socket : Socket) : Transfer.StreamState → List Event → Prop
  | alive : StreamEnd socket .alive []
  | ended {limit : Nat} {chunk : Chunk limit} (asked : limit ≠ 0) (hnone : chunk.bytes = []) :
    StreamEnd socket .ended [⟨.receive socket limit, .ok chunk⟩]
  | broken {limit : Nat} {error : IoError} (hblocked : error.kind ≠ .wouldBlock)
    (hinterrupted : error.kind ≠ .interrupted) :
    StreamEnd socket .broken [⟨.receive socket limit, .error error⟩]

/-- A call of receive. -/
def Request.isReceive : Request → Bool
  | .receive _ _ => true
  | _ => false

/-- A call of receive that has been interrupted. -/
def Event.isInterruption : Event → Bool
  | ⟨.receive _ _, .error error⟩ => error.kind = .interrupted
  | _ => false

/-- A call of receive that has found nothing, and has not been interrupted. -/
def Event.stalls : Event → Bool
  | ⟨.receive _ _, .ok chunk⟩ => chunk.bytes = []
  | ⟨.receive _ _, .error error⟩ => error.kind ≠ .interrupted
  | _ => false

/-- What has arrived has been stored in these steps. -/
inductive Storing (conduit : Conduit) (content : List UInt8) :
    Transmission → List (List Event) → Prop
  | all {steps : List (List Event)} (smooth : breaksIn steps.flatten = [])
    (stored : givenTo (.file conduit.file) steps.flatten =
      takenFrom (.socket conduit.socket) steps.flatten)
    (received : takenFrom (.socket conduit.socket) steps.flatten <+: content) :
    Storing conduit content (.storing conduit.file conduit.socket) steps

/-- Why an upload has come to its end after these events, and what the client is told of it. -/
inductive UploadEnd (conduit : Conduit) (content : List UInt8) (moved : List Event) :
    (code : Nat) → Text → Prop
  /-- The client has sent everything. -/
  | completed {ends : List Event} (orderly : StreamEnd conduit.socket .ended ends)
    (breaks : breaksIn moved = ends) (stored : givenTo (.file conduit.file) moved = content) :
    UploadEnd conduit content moved 226 "Transfer complete."
  /-- The connection has been lost. -/
  | cut {ends : List Event} (lost : StreamEnd conduit.socket .broken ends)
    (breaks : breaksIn moved = ends)
    (stored : givenTo (.file conduit.file) moved = takenFrom (.socket conduit.socket) moved)
    (received : takenFrom (.socket conduit.socket) moved <+: content) :
    UploadEnd conduit content moved 426 "Connection closed; transfer aborted."
  /-- The last bytes could not be written. -/
  | unwritable {state : Transfer.StreamState} {ends : List Event} {bytes : List UInt8}
    {error : IoError} (stream : StreamEnd conduit.socket state ends)
    (breaks : breaksIn moved = ends ++ [⟨.writeFile conduit.file bytes, .error error⟩])
    (stored : givenTo (.file conduit.file) moved ++ bytes =
      takenFrom (.socket conduit.socket) moved)
    (received : takenFrom (.socket conduit.socket) moved <+: content) :
    UploadEnd conduit content moved 451 "Error writing file."

/-! ## What has arrived -/

section Receiving

variable {socket : Socket} {handle : Handle} {attempts space : Nat} {events : List Event}
  {bytes : List UInt8} {state : Transfer.StreamState}

theorem ReceiveRun.length_le (h : ReceiveRun socket attempts space events bytes state) :
    bytes.length ≤ space := by
  induction h with
  | @piece _ _ _ _ _ _ chunk _ _ ih =>
    have hle := chunk.length_le
    rw [List.length_append]
    omega
  | interrupted _ _ _ ih => exact ih
  | _ => exact Nat.zero_le _

/-- What has come in was received. -/
theorem ReceiveRun.takenFrom_eq (h : ReceiveRun socket attempts space events bytes state) :
    takenFrom (.socket socket) events = bytes := by
  induction h with
  | enough => rfl
  | ended _ hchunk => simp [hchunk]
  | blocked | broken => rfl
  | interrupted _ _ _ ih => exact ih
  | piece _ _ _ ih => rw [takenFrom_cons, taken_receive, ih]

theorem ReceiveRun.streamEnd (h : ReceiveRun socket attempts space events bytes state) :
    StreamEnd socket state (breaksIn events) := by
  induction h with
  | enough => exact .alive
  | ended hspace hnone =>
    rw [breaksIn_cons, if_neg (by simp [Event.flows, hnone])]
    exact .ended hspace hnone
  | blocked _ hkind =>
    rw [breaksIn_cons, if_pos (by simp [Event.flows, hkind])]
    exact .alive
  | broken _ hblocked hinterrupted =>
    rw [breaksIn_cons, if_neg (by simp [Event.flows, hblocked, hinterrupted])]
    exact .broken hblocked hinterrupted
  | interrupted _ hkind _ ih =>
    rw [breaksIn_cons, if_pos (by simp [Event.flows, hkind])]
    exact ih
  | piece _ hsome _ ih =>
    rw [breaksIn_cons, if_pos (by simp [Event.flows, hsome])]
    exact ih

/-- Each call but the last gets some bytes or is interrupted. -/
theorem ReceiveRun.calls_le (h : ReceiveRun socket attempts space events bytes state) :
    events.length ≤ bytes.length + events.countP Event.isInterruption + 1 := by
  induction h with
  | enough => simp
  | ended | blocked | broken => simp
  | interrupted _ hkind _ ih =>
    rw [List.countP_cons_of_pos (by simp [Event.isInterruption, hkind]), List.length_cons]
    omega
  | piece _ hsome _ ih =>
    have hpos := List.length_pos_iff.2 hsome
    rw [List.countP_cons_of_neg (by simp [Event.isInterruption]), List.length_cons,
      List.length_append]
    omega

/-- The buffer is full in the end, or no more is to be had, or all calls have been made. -/
theorem ReceiveRun.stops (h : ReceiveRun socket attempts space events bytes state) :
    bytes.length = space ∨ (∃ event ∈ events, event.stalls = true) ∨
      attempts ≤ bytes.length + events.countP Event.isInterruption := by
  induction h with
  | enough h =>
    rcases h with rfl | rfl
    · exact .inr (.inr (Nat.zero_le _))
    · exact .inl rfl
  | ended _ hnone =>
    exact .inr (.inl ⟨_, List.mem_singleton_self _, by simp [Event.stalls, hnone]⟩)
  | blocked _ hkind =>
    exact .inr (.inl ⟨_, List.mem_singleton_self _, by simp [Event.stalls, hkind]⟩)
  | broken _ _ hinterrupted =>
    exact .inr (.inl ⟨_, List.mem_singleton_self _, by simp [Event.stalls, hinterrupted]⟩)
  | interrupted _ hkind _ ih =>
    rw [List.countP_cons_of_pos (by simp [Event.isInterruption, hkind])]
    rcases ih with hfull | ⟨event, hmem, hstalls⟩ | hmany
    · exact .inl hfull
    · exact .inr (.inl ⟨event, List.mem_cons_of_mem _ hmem, hstalls⟩)
    · exact .inr (.inr (by omega))
  | @piece _ _ _ _ _ _ chunk hsome _ ih =>
    have hpos := List.length_pos_iff.2 hsome
    have hle := chunk.length_le
    rw [List.countP_cons_of_neg (by simp [Event.isInterruption]), List.length_append]
    rcases ih with hfull | ⟨event, hmem, hstalls⟩ | hmany
    · exact .inl (by omega)
    · exact .inr (.inl ⟨event, List.mem_cons_of_mem _ hmem, hstalls⟩)
    · exact .inr (.inr (by omega))

/-- Nothing is given to anything in the meantime. -/
theorem ReceiveRun.givenTo_eq (h : ReceiveRun socket attempts space events bytes state) :
    givenTo handle events = [] := by
  refine List.flatMap_eq_nil_iff.2 fun event hmem => given_of_offered ?_
  obtain ⟨limit, hrequest⟩ := h.request_eq event hmem
  rw [hrequest]
  rfl

end Receiving

/-! ## Steps -/

/-- How an upload stands after its steps. -/
inductive UploadStands (conduit : Conduit) (steps : List (List Event)) : Transmission → Prop
  | underway
    (storing : Storing conduit (takenFrom (.socket conduit.socket) steps.flatten)
      (.storing conduit.file conduit.socket) steps) :
    UploadStands conduit steps (.storing conduit.file conduit.socket)
  | ended {moved : List Event} {code : Nat} {text : Text}
    (done : steps.flatten = moved ++ conduit.ending code text)
    (why : UploadEnd conduit (takenFrom (.socket conduit.socket) moved) moved code text) :
    UploadStands conduit steps .idle

section Steps

variable {conduit : Conduit} {chunkSize : Nat} {steps : List (List Event)} {content : List UInt8}
  {events received : List Event} {bytes : List UInt8} {attempts space : Nat}
  {state : Transfer.StreamState} {transmission : Transmission}

theorem Storing.nil : Storing conduit [] (.storing conduit.file conduit.socket) [] :=
  .all rfl rfl List.prefix_rfl

@[simp] theorem takenFrom_written (handle : Handle) (file : File) (bytes : List UInt8) :
    takenFrom handle (written file bytes) = [] := by
  unfold written
  split <;> rfl

@[simp] theorem givenTo_written (file : File) (bytes : List UInt8) :
    givenTo (.file file) (written file bytes) = bytes := by
  unfold written
  split
  · rename_i hnone
    rw [hnone, givenTo_nil]
  · simp

@[simp] theorem breaksIn_written (file : File) (bytes : List UInt8) :
    breaksIn (written file bytes) = [] := by
  unfold written
  split <;> rfl

/-- What has been received after some steps has been stored, too. -/
theorem Storing.store (h : Storing conduit content transmission steps)
    (hreceive : ReceiveRun conduit.socket attempts space received bytes state) :
    givenTo (.file conduit.file) (steps.flatten ++ received ++ written conduit.file bytes) =
        takenFrom (.socket conduit.socket)
          (steps.flatten ++ received ++ written conduit.file bytes) ∧
      breaksIn (steps.flatten ++ received ++ written conduit.file bytes) = breaksIn received := by
  cases h with
  | all smooth stored =>
    constructor
    · simp [stored, hreceive.givenTo_eq, hreceive.takenFrom_eq]
    · simp [smooth]

theorem StreamEnd.eq_nil {socket : Socket} {ends : List Event} (h : StreamEnd socket .alive ends) :
    ends = [] := by
  cases h
  rfl

/-- One more step of an upload. -/
theorem UploadStands.step
    (storing : Storing conduit content (.storing conduit.file conduit.socket) steps)
    (h : StepRun chunkSize conduit.control (.storing conduit.file conduit.socket) events
      transmission) :
    UploadStands conduit (steps ++ [events]) transmission := by
  cases h with
  | stored h =>
    generalize hgoesOn : true = goesOn at h
    cases h with
    | failed => cases hgoesOn
    | @stored received bytes state hreceive =>
      obtain rfl : state = .alive := of_decide_eq_true hgoesOn.symm
      obtain ⟨hstored, hbreaks⟩ := storing.store hreceive
      have hflatten : (steps ++ [received ++ written conduit.file bytes ++
          conclusion conduit.control .alive]).flatten =
            steps.flatten ++ received ++ written conduit.file bytes := by
        simp [conclusion]
      refine .underway (.all ?_ ?_ List.prefix_rfl)
      · rw [hflatten, hbreaks, hreceive.streamEnd.eq_nil]
      · rw [hflatten, hstored]
  | uploaded h =>
    generalize hgoesOn : false = goesOn at h
    cases h with
    | @failed received bytes state hreceive hsome error =>
      cases storing with
      | all smooth stored =>
        have hdone : (steps ++ [received ++ [⟨.writeFile conduit.file bytes, .error error⟩,
            said conduit.control 451 "Error writing file."] ++ conduit.closing]).flatten =
              steps.flatten ++ received ++ [⟨.writeFile conduit.file bytes, .error error⟩] ++
                conduit.ending 451 "Error writing file." := by
          simp [Conduit.ending]
        have hbreaks : breaksIn (steps.flatten ++ received ++
            [⟨.writeFile conduit.file bytes, .error error⟩]) =
              breaksIn received ++ [⟨.writeFile conduit.file bytes, .error error⟩] := by
          simp [smooth, breaksIn_cons, Event.flows]
        refine .ended hdone (.unwritable hreceive.streamEnd hbreaks ?_ List.prefix_rfl)
        simp [stored, hreceive.givenTo_eq, hreceive.takenFrom_eq]
    | @stored received bytes state hreceive =>
      obtain ⟨hstored, hbreaks⟩ := storing.store hreceive
      have hends := hreceive.streamEnd
      have hdone : ∀ code text, (steps ++ [received ++ written conduit.file bytes ++
          [said conduit.control code text] ++ conduit.closing]).flatten =
            steps.flatten ++ received ++ written conduit.file bytes ++
              conduit.ending code text := by
        simp [Conduit.ending]
      cases state with
      | alive => cases hgoesOn
      | ended => exact .ended (hdone _ _) (.completed hends hbreaks hstored)
      | broken => exact .ended (hdone _ _) (.cut hends hbreaks hstored List.prefix_rfl)

/-- What a step of an upload receives, and in how many calls. -/
structure ReceivesChunk (chunkSize : Nat) (socket : Socket) (events : List Event) : Prop where
  length_le : (takenFrom (.socket socket) events).length ≤ chunkSize
  calls_le : (events.countP fun event => event.request.isReceive) ≤
    (takenFrom (.socket socket) events).length + events.countP Event.isInterruption + 1
  /-- The buffer is full, or no more is to be had, or there have been too many interruptions. -/
  stops : (takenFrom (.socket socket) events).length = chunkSize ∨
    (∃ event ∈ events, event.stalls = true) ∨
    Transfer.patience ≤ events.countP Event.isInterruption

theorem taken_of_not_isReceive {socket : Socket} {event : Event}
    (h : event.request.isReceive = false) : event.taken (.socket socket) = [] := by
  obtain ⟨request, answer⟩ := event
  cases request with
  | receive => cases h
  | readFile =>
    cases answer with
    | error => rfl
    | ok => simp [Event.taken, Event.taken?]
  | _ => rfl

theorem isInterruption_of_not_isReceive {event : Event} (h : event.request.isReceive = false) :
    event.isInterruption = false := by
  obtain ⟨request, answer⟩ := event
  cases request <;> first | rfl | cases h

/-- After what has been received comes something else. -/
theorem ReceiveRun.receivesChunk {rest : List Event}
    (h : ReceiveRun conduit.socket (chunkSize + Transfer.patience) chunkSize received bytes state)
    (hrest : ∀ event ∈ rest, event.request.isReceive = false) :
    ReceivesChunk chunkSize conduit.socket (received ++ rest) := by
  have htaken : takenFrom (.socket conduit.socket) (received ++ rest) = bytes := by
    have hnone : takenFrom (.socket conduit.socket) rest = [] :=
      List.flatMap_eq_nil_iff.2 fun event hmem => taken_of_not_isReceive (hrest event hmem)
    rw [takenFrom_append, h.takenFrom_eq, hnone, List.append_nil]
  have hcalls : (rest.countP fun event => event.request.isReceive) = 0 :=
    List.countP_eq_zero.2 fun event hmem => by simp [hrest event hmem]
  have hinterruptions : rest.countP Event.isInterruption = 0 :=
    List.countP_eq_zero.2 fun event hmem => by
      simp [isInterruption_of_not_isReceive (hrest event hmem)]
  have hlength := h.length_le
  have hbound := h.calls_le
  have hle := List.countP_le_length (p := fun event : Event => event.request.isReceive)
    (l := received)
  refine ⟨?_, ?_, ?_⟩
  · rwa [htaken]
  · rw [htaken, List.countP_append, List.countP_append, hcalls, hinterruptions]
    omega
  · rw [htaken, List.countP_append, hinterruptions]
    rcases h.stops with hfull | ⟨event, hmem, hstalls⟩ | hmany
    · exact .inl hfull
    · exact .inr (.inl ⟨event, List.mem_append_left _ hmem, hstalls⟩)
    · by_cases hfull : bytes.length = chunkSize
      · exact .inl hfull
      · exact .inr (.inr (by omega))

theorem StoreRun.exists_receive {goesOn : Bool}
    (h : StoreRun conduit.control conduit.socket conduit.file chunkSize events goesOn) :
    ∃ received rest bytes state, events = received ++ rest ∧
      ReceiveRun conduit.socket (chunkSize + Transfer.patience) chunkSize received bytes state ∧
      ∀ event ∈ rest, event.request.isReceive = false := by
  obtain ⟨received, rest, bytes, state, hevents, hreceive, hrest⟩ := h.exists_received
  refine ⟨received, rest, bytes, state, hevents, hreceive, fun event hmem => ?_⟩
  rcases hrest event hmem with ⟨_, hrequest⟩ | ⟨_, -, hrequest⟩ <;> rw [hrequest] <;> rfl

theorem StepRun.receivesChunk
    (h : StepRun chunkSize conduit.control (.storing conduit.file conduit.socket) events
      transmission) : ReceivesChunk chunkSize conduit.socket events := by
  cases h with
  | stored h =>
    obtain ⟨received, rest, bytes, state, rfl, hreceive, hrest⟩ := h.exists_receive
    exact hreceive.receivesChunk hrest
  | uploaded h =>
    obtain ⟨received, rest, bytes, state, rfl, hreceive, hrest⟩ := h.exists_receive
    rw [List.append_assoc]
    refine hreceive.receivesChunk fun event hmem => ?_
    rcases List.mem_append.1 hmem with hmem | hmem
    · exact hrest event hmem
    · simp only [Transmission.released, List.mem_cons, List.not_mem_nil, or_false] at hmem
      rcases hmem with rfl | rfl <;> rfl

/-- An upload after any number of steps. -/
theorem Course.uploads
    (h : Course chunkSize conduit.control (.storing conduit.file conduit.socket) steps
      transmission) :
    UploadStands conduit steps transmission ∧
      ∀ events ∈ steps, ReceivesChunk chunkSize conduit.socket events := by
  induction h with
  | first h =>
    refine ⟨UploadStands.step .nil h, fun events hmem => ?_⟩
    rw [List.mem_singleton.1 hmem]
    exact h.receivesChunk
  | next _ step ih =>
    obtain ⟨hstands, hchunks⟩ := ih
    cases hstands with
    | ended => cases step
    | underway storing =>
      refine ⟨.step storing step, fun events hmem => ?_⟩
      rcases List.mem_append.1 hmem with hmem | hmem
      · exact hchunks events hmem
      · rw [List.mem_singleton.1 hmem]
        exact step.receivesChunk

end Steps

/-! ## Over a history -/

/-- What has been done for an upload in its first step and in the entries that belong to it, and
what has come of it up to now. -/
structure Uploaded (chunkSize slot : Nat) (conduit : Conduit) (content : List UInt8)
    (first : List Event) (server : Server) (later during : List Entry) (middle : Server) :
    Prop where
  /-- No step receives more than a chunk, nor for ever. -/
  chunked : ∀ events ∈ stepsOf conduit slot first during,
    ReceivesChunk chunkSize conduit.socket events
  /-- Between the steps nothing is done. -/
  aside : ∀ entry ∈ during, entry.deed ≠ .advance slot →
    doneFor conduit entry.events = [] ∨ GivenUp slot conduit entry middle
  turnout : Turnout slot conduit first (Storing conduit content) (UploadEnd conduit content) server
    later during middle

section Histories

variable {chunkSize slot : Nat} {conduit : Conduit} {content : List UInt8} {first : List Event}
  {steps : List (List Event)} {transmission : Transmission} {moved : List Event} {code : Nat}
  {text : Text} {newer later during older : List Entry} {entry : Entry} {server middle : Server}
  {before after : List Event} {path : Text} {file : File} {socket : Socket}

theorem StreamEnd.closes {socket : Socket} {state : Transfer.StreamState} {ends : List Event}
    (h : StreamEnd socket state ends) : ∀ event ∈ ends, event.request.closes = 0 := by
  cases h <;> simp [Request.closes]

/-- What has been received is what the client has sent. -/
theorem UploadEnd.supplied
    (h : UploadEnd conduit (takenFrom (.socket conduit.socket) moved) moved code text)
    (follows : (supplying (.socket conduit.socket)).Follows (some content) moved) :
    UploadEnd conduit content moved code text := by
  have hinitial := isPrefix_takenFrom follows
  cases h with
  | completed orderly breaks stored =>
    refine .completed orderly breaks (stored.trans ?_)
    cases orderly with
    | @ended limit chunk asked hnone =>
      have hmem : ⟨.receive conduit.socket limit, .ok chunk⟩ ∈ breaksIn moved := by simp [breaks]
      exact takenFrom_eq follows (by simp [breaks, Request.closes]) hmem asked
        (by simp [Event.taken?, hnone])
  | cut lost breaks stored => exact .cut lost breaks stored (hinitial (breaks ▸ lost.closes))
  | unwritable stream breaks stored =>
    refine .unwritable stream breaks stored (hinitial ?_)
    rw [breaks]
    intro event hmem
    rcases List.mem_append.1 hmem with hmem | hmem
    · exact stream.closes event hmem
    · rw [List.mem_singleton.1 hmem]
      rfl

theorem UploadStands.storing (h : UploadStands conduit steps transmission)
    (hactive : transmission.isActive = true)
    (follows : (supplying (.socket conduit.socket)).Follows (some content) steps.flatten) :
    Storing conduit content transmission steps := by
  cases h with
  | ended => cases hactive
  | underway storing =>
    cases storing with
    | all smooth stored =>
      refine .all smooth stored ?_
      exact isPrefix_takenFrom follows (by simp [smooth])

theorem UploadStands.concluded (h : UploadStands conduit steps .idle)
    (follows : (supplying (.socket conduit.socket)).Follows (some content) steps.flatten) :
    ∃ moved code text, steps.flatten = moved ++ conduit.ending code text ∧
      UploadEnd conduit content moved code text := by
  cases h with
  | ended done why =>
    rw [done] at follows
    exact ⟨_, _, _, done, why.supplied (Monitor.follows_append.1 follows).1⟩

theorem Fate.uploaded
    (h : Fate chunkSize slot conduit (.storing conduit.file conduit.socket) first server later
      during middle)
    (follows : (supplying (.socket conduit.socket)).Follows (some content)
      (first ++ eventsOf (later ++ during))) :
    Uploaded chunkSize slot conduit content first server later during middle := by
  obtain ⟨_, hcourse⟩ := h.exists_course
  refine ⟨hcourse.uploads.2, h.aside, h.turnout ?_ ?_⟩
  · intro recent past session hentries pursued hactive
    refine pursued.course.uploads.1.storing hactive ?_
    exact pursued.follows (.inr rfl) (hentries ▸ follows)
  · intro recent past session hentries pursued hidle
    have hsupply := pursued.follows (.inr rfl) (hentries ▸ follows)
    exact (hidle ▸ pursued.course.uploads.1).concluded hsupply

/-- What is sent to a file that has been opened for writing, and thereby emptied, is stored in it as
far as it arrives, whatever else happens between the steps. -/
theorem uploaded_of_reachable (h : Reachable (newer ++ entry :: older) server)
    (fresh : Fresh (newer ++ entry :: older))
    (opened : entry.events = before ++ ⟨.openFile path .write, .ok file⟩ :: after)
    (connected : socket ∈ connectionsIn before)
    (supplied : (supplying (.socket socket)).Follows (some content) (after ++ eventsOf newer)) :
    ∃ slot control, Starts entry before after path .write slot ⟨control, socket, file⟩
        (.storing file socket) ∧
      ∃ later during middle, newer = later ++ during ∧
        Reachable (during ++ entry :: older) middle ∧
        Uploaded server.config.chunkSize.toNat slot ⟨control, socket, file⟩ content after server
          later during middle := by
  obtain ⟨slot, socket', control, begun, starts, later, during, middle, rfl, hmiddle, fate⟩ :=
    h.course fresh opened
  obtain ⟨session', hopening⟩ := starts.opening
  rw [hopening.connected, List.mem_singleton] at connected
  subst connected
  rw [← h.config_eq] at fate
  cases hbegins : starts.begins with
  | upload =>
    exact ⟨slot, control, starts, later, during, middle, rfl, hmiddle, fate.uploaded supplied⟩

/-- The platform in memory, but its first client says and sends this text. -/
def uploadingClient (text : Text) :
    (r : Request) → Simulation.World → r.Answer × Simulation.World
  | .receive socket limit, world =>
    if socket = ⟨7⟩ then calledBy text (.receive socket limit) world
    else world.answer (.receive socket limit)
  | r, world => calledBy text r world

/-- A client uploads 150 bytes, which arrive in pieces and are stored in three steps, and sends a
line in the meantime. -/
def longUpload : List Entry × Server :=
  chronicle
    (uploadingClient "USER ada\r\nPASS x\r\nPORT 127,0,0,1,19,137\r\nSTOR f\r\nHI\r\n".toList)
    ([.start, .register { name := "ada", password := [], root := "/srv/ftp", rights := .all },
      .accept, .receive 0] ++ List.replicate 5 (.serve 0) ++ [.advance 0, .poll, .advance 0])
    [] (.create { chunkSize := 64 } ⟨Config.accountLimits {}, []⟩)
    { clock := 0
      disk := { nodes := [("/srv/ftp".toList, { kind := .dir, modified := .ofUnix 0 })] }
      network :=
        { nextOpened :=
          [{ data := (List.range 150).map UInt8.ofNat, ended := true, interrupts := some 2
             receiveMax := some 40 }] } }

theorem uploaded_of_reachable_longUpload :
    ∃ newer entry older before after path file socket content,
      longUpload.1 = newer ++ entry :: older ∧
      Reachable (newer ++ entry :: older) longUpload.2 ∧ Fresh (newer ++ entry :: older) ∧
      entry.events = before ++ ⟨.openFile path .write, .ok file⟩ :: after ∧
      socket ∈ connectionsIn before ∧
      (supplying (.socket socket)).Follows (some content) (after ++ eventsOf newer) ∧
      ∃ slot conduit later during middle,
        Uploaded longUpload.2.config.chunkSize.toNat slot conduit content after longUpload.2 later
          during middle := by
  have hopened : (longUpload.1[4]?.bind fun entry => entry.events[2]?.bind Event.opened?) =
      some ("/srv/ftp/f".toList, .write, ⟨1⟩) := by
    decide +kernel
  obtain ⟨entry, hentry, hhistory, hevents⟩ := exists_opened hopened
  have hreachable : Reachable (longUpload.1.take 4 ++ entry :: longUpload.1.drop 5)
      longUpload.2 := by
    rw [← hhistory]
    exact Reachable.of_chronicle _ ⟨_, _, .nil⟩ _ _
  have hfresh : Fresh (longUpload.1.take 4 ++ entry :: longUpload.1.drop 5) := by
    rw [← hhistory]
    decide +kernel
  have hconnected : ∀ entry ∈ longUpload.1[4]?, ⟨2⟩ ∈ connectionsIn (entry.events.take 2) := by
    decide +kernel
  have hsupplied : ∀ entry ∈ longUpload.1[4]?, (supplying (.socket ⟨2⟩)).Follows
      (some ((List.range 150).map UInt8.ofNat))
      (entry.events.drop 3 ++ eventsOf (longUpload.1.take 4)) := by
    decide +kernel
  obtain ⟨slot, control, -, later, during, middle, -, -, h⟩ :=
    uploaded_of_reachable hreachable hfresh hevents (hconnected entry hentry)
      (hsupplied entry hentry)
  exact ⟨_, _, _, _, _, _, _, _, _, hhistory, hreachable, hfresh, hevents, hconnected entry hentry,
    hsupplied entry hentry, slot, _, later, during, middle, h⟩

end Histories

end Ftp
