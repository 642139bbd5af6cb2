import Ftp.Proofs.Course

/-!
# The flow of bytes

Which bytes are taken from a handle and which are given to one in some events, where the flow
breaks, and what a platform does that holds so many bytes in store for a handle.

* `supplying`: the monitor of a platform that hands out some bytes in order, and tells their end;
* `isPrefix_takenFrom`, `takenFrom_eq`: the bytes that are taken are the first ones of those in
  store, and all of them once nothing is handed out;
* `follows_doneFor`: what is done for a transfer is all of it that this monitor sees.
-/

namespace Ftp

open Program

/-- What an event takes from a handle, with the number of bytes that were asked for. -/
def Event.taken? (handle : Handle) : Event → Option (Nat × List UInt8)
  | ⟨.readFile file limit, .ok chunk⟩ =>
    if handle = .file file then some (limit, chunk.bytes) else none
  | ⟨.receive socket limit, .ok chunk⟩ =>
    if handle = .socket socket then some (limit, chunk.bytes) else none
  | _ => none

/-- The bytes that an event takes from a handle. -/
def Event.taken (handle : Handle) (event : Event) : List UInt8 :=
  ((event.taken? handle).map Prod.snd).getD []

/-- The bytes that a request offers to a handle. -/
def Request.offered (handle : Handle) : Request → List UInt8
  | .writeFile file bytes => if handle = .file file then bytes else []
  | .send socket bytes => if handle = .socket socket then bytes else []
  | _ => []

/-- The event keeps bytes flowing: it moves some, or there are none to be had for now. -/
def Event.flows : Event → Bool
  | ⟨.readFile _ _, .ok chunk⟩ | ⟨.receive _ _, .ok chunk⟩ => chunk.bytes ≠ []
  | ⟨.receive _ _, .error error⟩ => error.kind = .wouldBlock || error.kind = .interrupted
  | ⟨.writeFile _ _, .ok ()⟩ | ⟨.send _ _, .ok ()⟩ => true
  | _ => false

/-- The bytes that an event gives to a handle. -/
def Event.given (handle : Handle) (event : Event) : List UInt8 :=
  if event.flows then event.request.offered handle else []

/-- The bytes that are taken from a handle. -/
def takenFrom (handle : Handle) (events : List Event) : List UInt8 :=
  events.flatMap (Event.taken handle)

/-- The bytes that are offered to a handle, whether it takes them or not. -/
def offeredTo (handle : Handle) (events : List Event) : List UInt8 :=
  events.flatMap fun event => event.request.offered handle

/-- The bytes that are given to a handle. -/
def givenTo (handle : Handle) (events : List Event) : List UInt8 :=
  events.flatMap (Event.given handle)

/-- Where the flow breaks. -/
def breaksIn (events : List Event) : List Event :=
  events.filter fun event => !event.flows

/-- The platform has bytes in store for the handle until this is closed. It hands them out in order,
and nothing at all only once there are none left. -/
def supplying (handle : Handle) : Monitor (Option (List UInt8)) where
  allows _ _ := True
  expects store r answer := ∀ content ∈ store, ∀ taken ∈ Event.taken? handle ⟨r, answer⟩,
    taken.2 <+: content ∧ (taken.2 = [] → taken.1 = 0 ∨ content = [])
  next store r answer :=
    if handle ∈ r.closes then none else store.map (·.drop (Event.taken handle ⟨r, answer⟩).length)

instance (handle : Handle) (store : Option (List UInt8)) (r : Request) (answer : r.Answer) :
    Decidable ((supplying handle).expects store r answer) :=
  inferInstanceAs (Decidable (∀ content ∈ store, ∀ taken ∈ Event.taken? handle ⟨r, answer⟩,
    taken.2 <+: content ∧ (taken.2 = [] → taken.1 = 0 ∨ content = [])))

section Flow

variable {handle : Handle} {conduit : Conduit} {events : List Event}

@[simp] theorem takenFrom_append (events more : List Event) :
    takenFrom handle (events ++ more) = takenFrom handle events ++ takenFrom handle more :=
  List.flatMap_append

@[simp] theorem offeredTo_append (events more : List Event) :
    offeredTo handle (events ++ more) = offeredTo handle events ++ offeredTo handle more :=
  List.flatMap_append

@[simp] theorem givenTo_append (events more : List Event) :
    givenTo handle (events ++ more) = givenTo handle events ++ givenTo handle more :=
  List.flatMap_append

@[simp] theorem breaksIn_append (events more : List Event) :
    breaksIn (events ++ more) = breaksIn events ++ breaksIn more :=
  List.filter_append ..

@[simp] theorem takenFrom_nil : takenFrom handle [] = [] := rfl

@[simp] theorem offeredTo_nil : offeredTo handle [] = [] := rfl

@[simp] theorem givenTo_nil : givenTo handle [] = [] := rfl

@[simp] theorem breaksIn_nil : breaksIn [] = [] := rfl

@[simp] theorem takenFrom_cons (event : Event) (events : List Event) :
    takenFrom handle (event :: events) = event.taken handle ++ takenFrom handle events := rfl

@[simp] theorem offeredTo_cons (event : Event) (events : List Event) :
    offeredTo handle (event :: events) =
      event.request.offered handle ++ offeredTo handle events := rfl

@[simp] theorem givenTo_cons (event : Event) (events : List Event) :
    givenTo handle (event :: events) = event.given handle ++ givenTo handle events := rfl

@[simp] theorem taken_readFile (file : File) {limit : Nat} (chunk : Chunk limit) :
    Event.taken (.file file) ⟨.readFile file limit, .ok chunk⟩ = chunk.bytes := by
  simp [Event.taken, Event.taken?]

@[simp] theorem taken_receive (socket : Socket) {limit : Nat} (chunk : Chunk limit) :
    Event.taken (.socket socket) ⟨.receive socket limit, .ok chunk⟩ = chunk.bytes := by
  simp [Event.taken, Event.taken?]

@[simp] theorem taken_send (socket : Socket) (bytes : List UInt8) (answer : Except IoError Unit) :
    Event.taken handle ⟨.send socket bytes, answer⟩ = [] := rfl

@[simp] theorem taken_writeFile (file : File) (bytes : List UInt8)
    (answer : Except IoError Unit) : Event.taken handle ⟨.writeFile file bytes, answer⟩ = [] := rfl

@[simp] theorem given_send (socket : Socket) (bytes : List UInt8) :
    Event.given (.socket socket) ⟨.send socket bytes, .ok ()⟩ = bytes := by
  simp [Event.given, Event.flows, Request.offered]

@[simp] theorem given_writeFile (file : File) (bytes : List UInt8) :
    Event.given (.file file) ⟨.writeFile file bytes, .ok ()⟩ = bytes := by
  simp [Event.given, Event.flows, Request.offered]

@[simp] theorem given_send_error (socket : Socket) (bytes : List UInt8) (error : IoError) :
    Event.given handle ⟨.send socket bytes, .error error⟩ = [] := rfl

@[simp] theorem given_writeFile_error (file : File) (bytes : List UInt8) (error : IoError) :
    Event.given handle ⟨.writeFile file bytes, .error error⟩ = [] := rfl

theorem given_of_offered {event : Event} (h : event.request.offered handle = []) :
    event.given handle = [] := by
  unfold Event.given
  rw [h, ite_self]

@[simp] theorem given_readFile (file : File) {limit : Nat} (answer : Except IoError (Chunk limit)) :
    Event.given handle ⟨.readFile file limit, answer⟩ = [] :=
  given_of_offered rfl

@[simp] theorem given_receive (socket : Socket) {limit : Nat}
    (answer : Except IoError (Chunk limit)) :
    Event.given handle ⟨.receive socket limit, answer⟩ = [] :=
  given_of_offered rfl

theorem breaksIn_cons (event : Event) (events : List Event) :
    breaksIn (event :: events) =
      if event.flows then breaksIn events else event :: breaksIn events := by
  unfold breaksIn
  cases h : event.flows <;> simp [h]

theorem Event.closes_of_flows {event : Event} (h : event.flows = true) :
    event.request.closes = 0 := by
  obtain ⟨request, answer⟩ := event
  cases request <;> first | rfl | cases h

/-- Nothing is closed if the flow does not break with a close. -/
theorem closes_of_breaksIn (h : ∀ event ∈ breaksIn events, event.request.closes = 0) :
    ∀ event ∈ events, event.request.closes = 0 := by
  intro event hmem
  cases hflows : event.flows with
  | true => exact Event.closes_of_flows hflows
  | false => exact h event (List.mem_filter.2 ⟨hmem, by rw [hflows]; rfl⟩)

/-! ## Supply -/

/-- The bytes that are taken are the first ones of those in store. -/
theorem supplying_after {content : List UInt8}
    (follows : (supplying handle).Follows (some content) events)
    (hopen : ∀ event ∈ events, event.request.closes = 0) :
    ∃ rest, takenFrom handle events ++ rest = content ∧
      (supplying handle).after (some content) events = some rest := by
  induction events generalizing content with
  | nil => exact ⟨content, rfl, rfl⟩
  | cons event events ih =>
    obtain ⟨hexpects, hrest⟩ := follows
    have hinitial : event.taken handle <+: content := by
      unfold Event.taken
      cases htaken : event.taken? handle with
      | none => exact List.nil_prefix
      | some taken => exact (hexpects content rfl taken htaken).1
    have hnext : (supplying handle).next (some content) event.request event.answer =
        some (content.drop (event.taken handle).length) := by
      simp [supplying, hopen event List.mem_cons_self]
    rw [hnext] at hrest
    obtain ⟨rest, hcontent, hafter⟩ := ih hrest fun event hmem =>
      hopen event (List.mem_cons_of_mem _ hmem)
    refine ⟨rest, ?_, ?_⟩
    · have hhead := List.prefix_iff_eq_append.1 hinitial
      rw [takenFrom, List.flatMap_cons, List.append_assoc, ← takenFrom, hcontent, hhead]
    · rw [Monitor.after, hnext, hafter]

theorem isPrefix_takenFrom {content : List UInt8}
    (follows : (supplying handle).Follows (some content) events)
    (hbreaks : ∀ event ∈ breaksIn events, event.request.closes = 0) :
    takenFrom handle events <+: content := by
  obtain ⟨rest, hcontent, -⟩ := supplying_after follows (closes_of_breaksIn hbreaks)
  exact ⟨rest, hcontent⟩

/-- Once nothing is handed out, everything has been. -/
theorem takenFrom_eq {content : List UInt8}
    (follows : (supplying handle).Follows (some content) events)
    (hbreaks : ∀ event ∈ breaksIn events, event.request.closes = 0) {event : Event}
    (hmem : event ∈ breaksIn events) {limit : Nat} (hlimit : limit ≠ 0)
    (hnone : event.taken? handle = some (limit, [])) : takenFrom handle events = content := by
  have hinitial := isPrefix_takenFrom follows hbreaks
  have hopen := closes_of_breaksIn hbreaks
  replace hmem := List.mem_of_mem_filter hmem
  obtain ⟨before, after, rfl⟩ := List.append_of_mem hmem
  obtain ⟨hbefore, hrest⟩ := Monitor.follows_append.1 follows
  obtain ⟨rest, hcontent, hafter⟩ := supplying_after hbefore fun event hmem =>
    hopen event (List.mem_append_left _ hmem)
  rw [hafter] at hrest
  have hrest : rest = [] :=
    ((hrest.1 rest rfl _ hnone).2 rfl).resolve_left hlimit
  rw [hrest, List.append_nil] at hcontent
  rw [takenFrom_append, hcontent] at hinitial ⊢
  rw [hinitial.eq_of_length_le (by simp)]

theorem next_supplying_eq {r : Request} {answer : r.Answer} (store : Option (List UInt8))
    (hcloses : handle ∉ r.closes) (htaken : Event.taken handle ⟨r, answer⟩ = []) :
    (supplying handle).next store r answer = store := by
  simp [supplying, hcloses, htaken]

/-- What is not done for a transfer is nothing to the supply of it. -/
theorem next_supplying_of_not_serves
    (hhandle : handle = .file conduit.file ∨ handle = .socket conduit.socket)
    (store : Option (List UInt8)) {event : Event} (hserves : event.request.serves conduit = false) :
    (supplying handle).next store event.request event.answer = store := by
  obtain ⟨request, answer⟩ := event
  cases request with
  | readFile file | closeFile file =>
    have hne : handle ≠ .file file := by
      rintro rfl
      rcases hhandle with h | h <;> cases h
      simp [Request.serves] at hserves
    refine next_supplying_eq store (by simp [Request.closes, hne]) ?_
    cases answer <;> simp [Event.taken, Event.taken?, hne]
  | receive socket | closeSocket socket =>
    have hne : handle ≠ .socket socket := by
      rintro rfl
      rcases hhandle with h | h <;> cases h
      simp [Request.serves] at hserves
    refine next_supplying_eq store (by simp [Request.closes, hne]) ?_
    cases answer <;> simp [Event.taken, Event.taken?, hne]
  | _ => exact next_supplying_eq store (Multiset.notMem_zero handle) rfl

theorem follows_doneFor (hhandle : handle = .file conduit.file ∨ handle = .socket conduit.socket)
    {store : Option (List UInt8)} (follows : (supplying handle).Follows store events) :
    (supplying handle).Follows store (doneFor conduit events) :=
  follows.filter fun store _ hserves => next_supplying_of_not_serves hhandle store hserves

/-- What is in store for a transfer is there for its steps. -/
theorem Pursued.follows {chunkSize slot : Nat} {begun : Transmission} {first : List Event}
    {recent past : List Entry} {session : Session}
    (h : Pursued chunkSize slot conduit begun first past session)
    (hhandle : handle = .file conduit.file ∨ handle = .socket conduit.socket)
    {store : Option (List UInt8)}
    (follows : (supplying handle).Follows store (first ++ eventsOf (recent ++ past))) :
    (supplying handle).Follows store (stepsOf conduit slot first past).flatten := by
  rw [eventsOf_append, ← List.append_assoc] at follows
  rw [flatten_stepsOf h.aside]
  exact follows_doneFor hhandle (Monitor.follows_append.1 follows).1

end Flow

end Ftp
