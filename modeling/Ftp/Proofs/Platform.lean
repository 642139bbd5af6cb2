import Ftp.Proofs.Isolation

/-!
# Platforms that keep handles apart

What a platform keeps behind a handle, such as the bytes on their way through a socket or the
position in an open file, is nothing to a request on other handles. The platform in memory is of
that kind.

* `KeepsApart.view_trace`: what stands behind a handle outlives every run that spares it;
* `keepsApart_answer`: the platform in memory.
-/

namespace Ftp

open Program

/-- What the platform keeps behind a handle is changed only by a request on the handle, or by one
that hands it out. -/
structure KeepsApart {State View : Type} (answer : (r : Request) → State → r.Answer × State)
    (view : Handle → State → View) : Prop where
  view_eq : ∀ (r : Request) (state : State) (handle : Handle), handle ∉ r.uses →
    handle ∉ r.gives (answer r state).1 → view handle (answer r state).2 = view handle state

/-- The event neither works on the handle nor hands it out. -/
def Event.Spares (event : Event) (handle : Handle) : Prop :=
  handle ∉ event.request.uses ∧ handle ∉ event.request.gives event.answer

theorem KeepsApart.view_trace {α State View : Type}
    {answer : (r : Request) → State → r.Answer × State} {view : Handle → State → View}
    (h : KeepsApart answer view) (program : Program α) (state : State) {handle : Handle}
    (spares : ∀ event ∈ (program.trace answer state).1, event.Spares handle) :
    view handle (program.trace answer state).2.2 = view handle state := by
  induction program generalizing state with
  | done value => rfl
  | ask r resume ih =>
    have hfirst := spares ⟨r, (answer r state).1⟩ List.mem_cons_self
    have hrest := ih (answer r state).1 (answer r state).2
      fun event hmem => spares event (List.mem_cons_of_mem _ hmem)
    exact hrest.trans (h.view_eq r state handle hfirst.1 hfirst.2)

namespace Simulation

/-! ## Entries with keys -/

section Keys

variable {α κ : Type} [DecidableEq κ] {key : α → κ} {k : κ} {list : List α}

/-- A change that keeps the keys, and the entry of the key, does not show at the key. -/
theorem find?_map_of_key {change : α → α} (hkey : ∀ x, key (change x) = key x)
    (hsame : ∀ x, key x = k → change x = x) :
    (list.map change).find? (fun x => key x = k) = list.find? fun x => key x = k := by
  induction list with
  | nil => rfl
  | cons x list ih =>
    rw [List.map_cons]
    by_cases hx : key x = k
    · rw [List.find?_cons_of_pos (by simp [hkey, hx]), List.find?_cons_of_pos (by simp [hx]),
        hsame x hx]
    · rw [List.find?_cons_of_neg (by simp [hkey, hx]), List.find?_cons_of_neg (by simp [hx]), ih]

theorem find?_append_of_key {x : α} (hx : key x ≠ k) :
    (list ++ [x]).find? (fun x => key x = k) = list.find? fun x => key x = k := by
  rw [List.find?_append, List.find?_cons_of_neg (by simp [hx]), List.find?_nil, Option.or_none]

theorem find?_filter_of_key {other : κ} (hother : k ≠ other) :
    (list.filter fun x => key x ≠ other).find? (fun x => key x = k) =
      list.find? fun x => key x = k := by
  rw [List.find?_filter]
  congr 1
  funext x
  by_cases hx : key x = k
  · simp [hx, hother]
  · simp [hx]

theorem key_of_find? {x : α} (h : list.find? (fun x => key x = k) = some x) : key x = k :=
  of_decide_eq_true (List.find?_some (p := fun x => decide (key x = k)) h)

end Keys

/-! ## The network -/

namespace Network

variable {network network' : Network} {socket other : Socket}

/-- What stands behind the socket is the same. -/
structure Same (socket : Socket) (network network' : Network) : Prop where
  listener? : network'.listener? socket = network.listener? socket
  stream? : network'.stream? socket = network.stream? socket

theorem Same.refl (socket : Socket) (network : Network) : Same socket network network :=
  ⟨rfl, rfl⟩

theorem same_setStream {stream : Stream} (h : stream.handle ≠ socket) :
    Same socket network (network.setStream stream) where
  listener? := rfl
  stream? := by
    refine find?_map_of_key (fun other => ?_) fun other hother => if_neg ?_
    · split
      · rename_i heq
        exact heq.symm
      · rfl
    · rw [hother]
      exact h.symm

theorem same_setListener {listener : Listener} (h : listener.handle ≠ socket) :
    Same socket network (network.setListener listener) where
  listener? := by
    refine find?_map_of_key (fun other => ?_) fun other hother => if_neg ?_
    · split
      · rename_i heq
        exact heq.symm
      · rfl
    · rw [hother]
      exact h.symm
  stream? := rfl

theorem same_listen {endpoint : Endpoint}
    (h : ∀ given, (network.listen endpoint).1 = .ok given → given ≠ socket) :
    Same socket network (network.listen endpoint).2 := by
  unfold listen at h ⊢
  split
  · exact .refl _ _
  · rename_i hfree
    rw [if_neg hfree] at h
    exact ⟨find?_append_of_key (h _ rfl), rfl⟩

theorem same_accept (h : other ≠ socket) : Same socket network (network.accept other).2 := by
  have hset : ∀ {listener changed : Listener}, network.listener? other = some listener →
      changed.handle = listener.handle → Same socket network (network.setListener changed) := by
    intro listener changed hlistener hchanged
    refine same_setListener ?_
    rw [hchanged, key_of_find? hlistener]
    exact h
  unfold accept
  split
  · exact .refl _ _
  · rename_i listener hlistener
    split
    · exact hset hlistener rfl
    · exact .refl _ _
    · split
      · exact hset hlistener rfl
      · exact .refl _ _

theorem same_connect {target : Endpoint}
    (h : ∀ given, (network.connect target).1 = .ok given → given ≠ socket) :
    Same socket network (network.connect target).2 := by
  unfold connect at h ⊢
  split
  · exact .refl _ _
  · rename_i hfree
    rw [if_neg hfree] at h
    refine ⟨rfl, find?_append_of_key ?_⟩
    cases network.nextOpened.head? <;> exact h _ rfl

theorem handle_of_send {stream stream' : Stream} {bytes : List UInt8}
    (h : stream.send bytes = some stream') : stream'.handle = stream.handle := by
  unfold Stream.send at h
  split at h
  · cases h
  · cases h
    rfl

theorem same_send (h : other ≠ socket) (bytes : List UInt8) :
    Same socket network (network.send other bytes).2 := by
  unfold send
  split
  · rename_i stream hsend
    obtain ⟨before, hbefore, hsent⟩ := Option.bind_eq_some_iff.1 hsend
    refine same_setStream ?_
    rw [handle_of_send hsent, key_of_find? hbefore]
    exact h
  · exact .refl _ _

theorem handle_receive (stream : Stream) (limit : Nat) :
    (stream.receive limit).2.handle = stream.handle := by
  unfold Stream.receive
  split
  · rfl
  split
  · rfl
  split
  · rfl
  split
  · split <;> rfl
  · rfl

theorem same_receive (h : other ≠ socket) (limit : Nat) :
    Same socket network (network.receive other limit).2 := by
  unfold receive
  split
  · rename_i stream hstream
    refine same_setStream ?_
    rw [handle_receive, key_of_find? hstream]
    exact h
  · exact .refl _ _

theorem same_close (h : other ≠ socket) : Same socket network (network.close other) where
  listener? := find?_filter_of_key h.symm
  stream? := by
    refine find?_map_of_key (fun stream => ?_) fun stream hstream => if_neg ?_
    · split <;> rfl
    · rw [hstream]
      exact h.symm

theorem same_poll {sockets : List Socket} (h : socket ∉ sockets) :
    Same socket network (network.poll sockets).2 := by
  unfold poll
  split
  · exact ⟨rfl, rfl⟩
  · refine ⟨rfl, find?_map_of_key (fun stream => ?_) fun stream hstream => if_neg ?_⟩
    · split <;> rfl
    · rw [hstream]
      simpa using h

end Network

/-! ## The open files -/

namespace Disk

variable {disk : Disk} {file other : File}

theorem openFile?_issue {path : Text}
    (h : ∀ given, (disk.issue path).1 = .ok given → given ≠ file) :
    (disk.issue path).2.openFile? file = disk.openFile? file :=
  find?_append_of_key (h _ rfl)

theorem openFile?_openFile {path : Text} {mode : OpenMode} {now : DateTime}
    (h : ∀ given, (disk.openFile path mode now).1 = .ok given → given ≠ file) :
    (disk.openFile path mode now).2.openFile? file = disk.openFile? file := by
  unfold openFile at h ⊢
  split
  · rename_i node hnode
    rw [hnode] at h
    simp only [] at h
    split
    · rfl
    · rename_i hopens
      rw [if_neg hopens] at h
      cases mode <;> exact openFile?_issue h
  · rename_i hnode
    rw [hnode] at h
    cases mode with
    | read => rfl
    | write =>
      simp only [] at h ⊢
      split
      · rename_i hparent
        rw [if_pos hparent] at h
        exact openFile?_issue h
      · rfl

theorem openFile?_read (h : other ≠ file) (limit : Nat) :
    (disk.read other limit).2.openFile? file = disk.openFile? file := by
  unfold read
  split
  · rfl
  · rename_i opened hopened
    split
    · rfl
    · split
      · rfl
      · refine find?_map_of_key (fun entry => ?_) fun entry hentry => if_neg ?_
        · split
          · rename_i heq
            exact (key_of_find? hopened).trans heq.symm
          · rfl
        · rw [hentry]
          exact h.symm

theorem openFile?_write (bytes : List UInt8) :
    (disk.write other bytes).2.openFile? file = disk.openFile? file := by
  unfold write
  split
  · rfl
  · split
    · rfl
    · simp only []
      split <;> rfl

theorem openFile?_close (h : other ≠ file) :
    (disk.close other).openFile? file = disk.openFile? file :=
  find?_filter_of_key h.symm

theorem openFile?_removeFile (path : Text) :
    (disk.removeFile path).2.openFile? file = disk.openFile? file := by
  unfold removeFile
  split
  · rfl
  · split <;> rfl

theorem openFile?_makeDir (path : Text) (now : DateTime) :
    (disk.makeDir path now).2.openFile? file = disk.openFile? file := by
  unfold makeDir
  split <;> rfl

theorem openFile?_removeDir (path : Text) :
    (disk.removeDir path).2.openFile? file = disk.openFile? file := by
  unfold removeDir
  split
  · rfl
  · split <;> rfl

end Disk

/-! ## The platform in memory -/

/-- What the platform in memory keeps behind a handle: a listener with the connections that wait, a
connection with the bytes on their way, or an open file with its position. -/
structure Behind where
  listener : Option Listener := none
  stream : Option Stream := none
  file : Option OpenFile := none

/-- What stands behind the handle. -/
def World.behind (handle : Handle) (world : World) : Behind :=
  match handle with
  | .socket socket =>
    { listener := world.network.listener? socket, stream := world.network.stream? socket }
  | .file file => { file := world.disk.openFile? file }

section World

variable {world world' : World}

theorem behind_eq (disk : world'.disk = world.disk) (network : world'.network = world.network)
    (handle : Handle) : world'.behind handle = world.behind handle := by
  unfold World.behind
  rw [disk, network]

/-- The network has changed, but not behind the handle. -/
theorem behind_eq_of_same {handle : Handle} (disk : world'.disk = world.disk)
    (same : ∀ socket, handle = .socket socket → Network.Same socket world.network world'.network) :
    world'.behind handle = world.behind handle := by
  cases handle with
  | socket socket =>
    obtain ⟨hlistener, hstream⟩ := same socket rfl
    simp only [World.behind, hlistener, hstream]
  | file file => simp only [World.behind, disk]

/-- The disk has changed, but not behind the handle. -/
theorem behind_eq_of_openFile? {handle : Handle} (network : world'.network = world.network)
    (same : ∀ file, handle = .file file →
      world'.disk.openFile? file = world.disk.openFile? file) :
    world'.behind handle = world.behind handle := by
  cases handle with
  | socket socket => simp only [World.behind, network]
  | file file => simp only [World.behind, same file rfl]

theorem answer_listen (world : World) (endpoint : Endpoint) :
    (World.answer (.listen endpoint) world).1 = (world.network.listen endpoint).1 ∧
      (World.answer (.listen endpoint) world).2.network = (world.network.listen endpoint).2 ∧
      (World.answer (.listen endpoint) world).2.disk = world.disk := by
  rcases h : world.network.listen endpoint with ⟨_ | _, network⟩ <;>
    simp [World.answer, World.note, h]

theorem answer_connect (world : World) (target : Endpoint) (wait : Nat) :
    (World.answer (.connect target wait) world).1 = (world.network.connect target).1 ∧
      (World.answer (.connect target wait) world).2.network = (world.network.connect target).2 ∧
      (World.answer (.connect target wait) world).2.disk = world.disk := by
  rcases h : world.network.connect target with ⟨_ | _, network⟩ <;>
    simp [World.answer, World.note, h]

theorem answer_accept (world : World) (listener : Socket) (wait : Nat) :
    (World.answer (.accept listener wait) world).2.network =
        (world.network.accept listener).2 ∧
      (World.answer (.accept listener wait) world).2.disk = world.disk := by
  cases h : world.tracing <;> simp [World.answer, World.trace, World.note, h]

theorem answer_poll (world : World) (sockets : List Socket) (wait : Nat) :
    (World.answer (.poll sockets wait) world).2.network = (world.network.poll sockets).2 ∧
      (World.answer (.poll sockets wait) world).2.disk = world.disk := by
  cases h : world.tracing <;> simp [World.answer, World.trace, World.note, h]

theorem noteScripted_eq (world : World) (event : Text) :
    (world.noteScripted event).disk = world.disk ∧
      (world.noteScripted event).network = world.network := by
  unfold World.noteScripted
  split <;> exact ⟨rfl, rfl⟩

/-- Sockets and files of the platform in memory are nothing to each other. -/
theorem keepsApart_answer : KeepsApart World.answer World.behind where
  view_eq r world handle huses hgives := by
    have hother : ∀ {socket other : Socket}, Handle.socket socket ∉ [Handle.socket other] →
        other ≠ socket := fun h heq => h (by rw [heq]; exact List.mem_singleton_self _)
    cases r with
    | listen endpoint =>
      obtain ⟨hgiven, hnetwork, hdisk⟩ := answer_listen world endpoint
      refine behind_eq_of_same hdisk ?_
      rintro socket rfl
      rw [hnetwork]
      refine Network.same_listen fun given hok => ?_
      rintro rfl
      rw [hgiven, hok] at hgives
      exact hgives (Multiset.mem_singleton_self _)
    | connect target wait =>
      obtain ⟨hgiven, hnetwork, hdisk⟩ := answer_connect world target wait
      refine behind_eq_of_same hdisk ?_
      rintro socket rfl
      rw [hnetwork]
      refine Network.same_connect fun given hok => ?_
      rintro rfl
      rw [hgiven, hok] at hgives
      exact hgives (Multiset.mem_singleton_self _)
    | accept listener wait =>
      obtain ⟨hnetwork, hdisk⟩ := answer_accept world listener wait
      refine behind_eq_of_same hdisk ?_
      rintro socket rfl
      rw [hnetwork]
      exact Network.same_accept (hother huses)
    | poll sockets wait =>
      obtain ⟨hnetwork, hdisk⟩ := answer_poll world sockets wait
      refine behind_eq_of_same hdisk ?_
      rintro socket rfl
      rw [hnetwork]
      exact Network.same_poll fun hmem => huses (List.mem_map_of_mem hmem)
    | send other bytes =>
      refine behind_eq_of_same rfl ?_
      rintro socket rfl
      exact Network.same_send (hother huses) bytes
    | reply other reply =>
      refine behind_eq_of_same rfl ?_
      rintro socket rfl
      exact Network.same_send (hother huses) reply.bytes
    | receive other limit =>
      refine behind_eq_of_same rfl ?_
      rintro socket rfl
      exact Network.same_receive (hother huses) limit
    | closeSocket other =>
      refine behind_eq_of_same rfl ?_
      rintro socket rfl
      exact Network.same_close (hother huses)
    | openFile path mode =>
      refine behind_eq_of_openFile? rfl ?_
      rintro file rfl
      refine @Disk.openFile?_openFile _ _ _ mode _ fun given hok => ?_
      rintro rfl
      refine hgives ?_
      rw [show (World.answer (.openFile path mode) world).1 = .ok given from hok]
      exact Multiset.mem_singleton_self _
    | readFile other limit =>
      refine behind_eq_of_openFile? rfl ?_
      rintro file rfl
      exact Disk.openFile?_read (fun heq => huses (by rw [← heq]; exact List.mem_singleton_self _))
        limit
    | writeFile other bytes =>
      exact behind_eq_of_openFile? rfl fun file _ => Disk.openFile?_write bytes
    | closeFile other =>
      refine behind_eq_of_openFile? rfl ?_
      rintro file rfl
      exact Disk.openFile?_close fun heq => huses (by rw [← heq]; exact List.mem_singleton_self _)
    | removeFile path =>
      exact behind_eq_of_openFile? rfl fun file _ => Disk.openFile?_removeFile path
    | makeDir path =>
      exact behind_eq_of_openFile? rfl fun file _ => Disk.openFile?_makeDir path world.now
    | removeDir path =>
      exact behind_eq_of_openFile? rfl fun file _ => Disk.openFile?_removeDir path
    | addForward | removeForward | mayRetrieve =>
      exact behind_eq (noteScripted_eq world _).1 (noteScripted_eq world _).2 handle
    | localAddress | stat | readDir | unixTime | localTime | externalAddress | admits => rfl

end World

end Simulation

end Ftp
