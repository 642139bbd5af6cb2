import Ftp.Proofs.Admission
import Ftp.Proofs.Conduit
import Ftp.Proofs.Platform

/-!
# What is done for one session is nothing to the others

A deed for a session asks only for what the session owns at that moment. On a platform that hands
out no handle that is open, the other sessions stay as they are: their records, what they own, and
whatever the platform keeps behind that.

* `Program.Safe.follows_own`: to a program that keeps to its share the rest looks fresh;
* `mem_after_of_slot`, `spares_of_foreign`: what a deed works on, and what it leaves alone;
* `exec_accept_turnedAway`: a client that is turned away changes nothing;
* `separated_of_reachable`: so it is with every deed, whatever has happened before.
-/

namespace Ftp

open Program

/-! ## The share of a deed -/

section Shares

variable {α : Type} {own rest : Multiset Handle}

/-- To a program that keeps to its share what the platform hands out is fresh, and apart from the
rest. -/
theorem Program.Safe.follows_own {program : Program α} {post : α → Multiset Handle → Prop}
    (h : program.Safe ownership own post) {events : List Event} {value : α}
    (run : Exec program events value) (hfresh : ownership.Follows (own + rest) events) :
    ownership.Follows own events ∧
      ∀ event ∈ events, ∀ handle ∈ event.request.gives event.answer, handle ∉ rest := by
  induction run generalizing own with
  | done value => exact ⟨trivial, fun _ hmem => by cases hmem⟩
  | @ask r resume answer events value run ih =>
    have hexpects : ownership.expects own r answer := fun handle hmem hown =>
      hfresh.1 handle hmem (Multiset.mem_add.2 (.inl hown))
    have hrest := hfresh.2
    rw [show ownership.next (own + rest) _ _ = _ from next_frame h.1 answer] at hrest
    obtain ⟨hfollows, hgives⟩ := ih (h.2 answer hexpects) hrest
    refine ⟨⟨hexpects, hfollows⟩, fun event hmem => ?_⟩
    rcases List.mem_cons.1 hmem with rfl | hmem
    · exact fun handle hgiven hother => hfresh.1 handle hgiven (Multiset.mem_add.2 (.inr hother))
    · exact hgives event hmem

/-- What is open was open before, or has been handed out since. -/
theorem mem_after_ownership {opened : Multiset Handle} {events : List Event} {handle : Handle}
    (h : handle ∈ ownership.after opened events) :
    handle ∈ opened ∨ ∃ event ∈ events, handle ∈ event.request.gives event.answer := by
  induction events generalizing opened with
  | nil => exact .inl h
  | cons event events ih =>
    rcases ih h with hnext | ⟨given, hmem, hgiven⟩
    · rcases Multiset.mem_add.1 hnext with hkept | hgiven
      · exact .inl (Multiset.mem_of_le (Multiset.sub_le_self _ _) hkept)
      · exact .inr ⟨event, List.mem_cons_self, hgiven⟩
    · exact .inr ⟨given, List.mem_cons_of_mem _ hmem, hgiven⟩

end Shares

/-! ## Deeds -/

section Deeds

variable {server server' : Server} {deed : Deed} {events : List Event} {slot : Nat}
  {session : Session} {opened : Multiset Handle}

/-- What a deed for a session works on is open, and the session's own or obtained by the deed. -/
theorem mem_after_of_slot (owned : server.Owned opened)
    (run : Exec (server.perform deed) events server')
    (hfresh : ownership.Follows opened events) (hdeed : deed.slot? = some slot)
    (get : server.sessions.get? slot = some session) {before after : List Event} {event : Event}
    (hevents : events = before ++ event :: after) :
    ∀ handle ∈ event.request.uses, handle ∈ ownership.after session.handles before := by
  have hshare : server.share deed = session.handles := by
    cases deed <;> cases hdeed <;> rw [Server.share, get] <;> rfl
  have hpoll : deed ≠ .poll := by
    rintro rfl
    cases hdeed
  have hsafe := hshare ▸ @safe_perform_share server deed hpoll
  -- The share is part of what is open, so that what is fresh to the platform is fresh to the share.
  obtain ⟨rest, rfl⟩ := Multiset.le_iff_exists_add.1 (owned.le_opened get)
  obtain ⟨hfollows, -⟩ := hsafe.follows_own run hfresh
  subst hevents
  exact hsafe.allows_of_exec run (Monitor.follows_append.1 hfollows).1

/-- A deed spares what a session owns, unless it is about the session or waits for all of them. -/
theorem spares_of_foreign (owned : server.Owned opened)
    (run : Exec (server.perform deed) events server')
    (hfresh : ownership.Follows opened events)
    (get : server.sessions.get? slot = some session) (hdeed : deed.slot? ≠ some slot)
    (hpoll : deed ≠ .poll) :
    ∀ event ∈ events, ∀ handle ∈ session.handles, event.Spares handle := by
  obtain ⟨others, heq⟩ :=
    Multiset.le_iff_exists_add.1 ((share_add_handles_le get hdeed).trans owned.le)
  have huses := untouched owned run hfresh get hdeed hpoll
  rw [heq, add_assoc] at hfresh
  obtain ⟨-, hgives⟩ := (safe_perform_share hpoll).follows_own run hfresh
  exact fun event hevent handle hmem =>
    ⟨fun hused => huses event hevent handle hused hmem,
      fun hgiven => hgives event hevent handle hgiven (Multiset.mem_add.2 (.inl hmem))⟩

/-! ## Clients that are turned away -/

theorem insert_eq_error {table : SessionTable}
    (full : ∀ slot < table.capacity, (table.get? slot).isSome = true) (control : Socket)
    (remote : Endpoint) (now : Int) :
    table.insert control remote now = .error (.tableFull table.capacity) := by
  unfold SessionTable.insert
  have hnone : table.slots.findIdx? Option.isNone = none := by
    rw [List.findIdx?_eq_none_iff]
    intro entry hmem
    obtain ⟨slot, hslot, rfl⟩ := List.getElem_of_mem hmem
    have hsome := full slot hslot
    rw [SessionTable.get?, List.getElem?_eq_getElem hslot, Option.join_some] at hsome
    rw [Option.isNone_eq_false_iff]
    exact hsome
  rw [hnone]

/-- A client that the deployment does not want, or for whom there is no slot, changes nothing. -/
theorem exec_accept_turnedAway (run : Exec (server.perform .accept) events server')
    (h : (∃ client, (⟨.admits client, false⟩ : Event) ∈ events) ∨
      ∀ slot < server.sessions.capacity, (server.sessions.get? slot).isSome = true) :
    server' = server := by
  rcases exec_accept run with ⟨-, rfl⟩ | ⟨listener, sessions, -, haccept, rfl⟩
  · rfl
  · cases haccept with
    | nobody | rejected | surplus => rfl
    | welcomed insert =>
      rcases h with ⟨client, hmem⟩ | full
      · simp at hmem
      · rw [insert_eq_error full] at insert
        cases insert

end Deeds

/-! ## Over a history -/

/-- What the latest deed, which leads to this server, means to the sessions. -/
structure Separated (entry : Entry) (server : Server) : Prop where
  /-- What is done for a session is done with what the session owns, or has obtained in the same
  deed, and has not closed since. -/
  own : ∀ slot session, entry.deed.slot? = some slot →
    entry.before.sessions.get? slot = some session → ∀ before event after,
    entry.events = before ++ event :: after → ∀ handle ∈ event.request.uses,
      handle ∈ ownership.after session.handles before ∧
        (handle ∈ session.handles ∨
          ∃ given ∈ before, handle ∈ given.request.gives given.answer)
  /-- The records of the other sessions stay as they are, and so do the free slots unless a client
  is accepted. -/
  record : ∀ slot, entry.deed.slot? ≠ some slot →
    (entry.before.sessions.get? slot).isSome = true ∨ entry.deed ≠ .accept →
    server.sessions.get? slot = entry.before.sessions.get? slot
  /-- What the other sessions own is neither worked on nor handed out. -/
  spares : ∀ slot session, entry.deed.slot? ≠ some slot → entry.deed ≠ .poll →
    entry.before.sessions.get? slot = some session →
    ∀ event ∈ entry.events, ∀ handle ∈ session.handles, event.Spares handle
  /-- What a platform keeps behind that stays as it is. -/
  view : ∀ slot session, entry.deed.slot? ≠ some slot → entry.deed ≠ .poll →
    entry.before.sessions.get? slot = some session →
    ∀ {State View : Type} (answer : (r : Request) → State → r.Answer × State)
      (view : Handle → State → View) (state : State), KeepsApart answer view →
    ((entry.before.perform entry.deed).trace answer state).1 = entry.events →
    ∀ handle ∈ session.handles,
      view handle ((entry.before.perform entry.deed).trace answer state).2.2 = view handle state
  /-- A client that is turned away changes nothing. -/
  turnedAway : entry.deed = .accept →
    ((∃ client, (⟨.admits client, false⟩ : Event) ∈ entry.events) ∨
      ∀ slot < entry.before.sessions.capacity,
        (entry.before.sessions.get? slot).isSome = true) →
    server = entry.before

section Histories

variable {older : List Entry} {entry : Entry} {server : Server}

theorem Outcome.get?_eq_none {server server' : Server} {deed : Deed} {slot : Nat}
    (h : Outcome server deed server')
    (hget : server.sessions.get? slot = none) (haccept : deed ≠ .accept) :
    server'.sessions.get? slot = none := by
  cases hget' : server'.sessions.get? slot with
  | none => rfl
  | some session =>
    rcases h.get?_eq_some hget' with ⟨before, hbefore, -⟩ | ⟨rfl, -⟩
    · rw [hget] at hbefore
      cases hbefore
    · exact absurd rfl haccept

/-- After every deed that leads to a server the sessions that it was not about are as they were, and
what it was about kept to its own. -/
theorem separated_of_reachable (h : Reachable (entry :: older) server)
    (fresh : Fresh (entry :: older)) : Separated entry server := by
  obtain ⟨config, accounts, hleads⟩ := h
  cases hleads with
  | @cons _ before _ deed events hleads run =>
    have hreachable : Reachable older before := ⟨config, accounts, hleads⟩
    have placed := hreachable.placed
    obtain ⟨hbefore, hfresh⟩ := fresh_cons.1 fresh
    have owned := hreachable.owned hbefore
    have houtcome := (returns_perform placed deed).of_exec run
    have hspares : ∀ slot session, deed.slot? ≠ some slot → deed ≠ .poll →
        before.sessions.get? slot = some session →
        ∀ event ∈ events, ∀ handle ∈ session.handles, event.Spares handle :=
      fun slot session hdeed hpoll hget => spares_of_foreign owned run hfresh hget hdeed hpoll
    exact
      { own slot session hdeed hget first event last hevents handle hused := by
          have hmem := mem_after_of_slot owned run hfresh hdeed hget hevents handle hused
          exact ⟨hmem, mem_after_ownership hmem⟩
        record slot hdeed hfree := by
          cases hget : before.sessions.get? slot with
          | some session => exact houtcome.get?_of_foreign hget hdeed
          | none => exact houtcome.get?_eq_none hget (hfree.resolve_left (by simp [hget]))
        spares := hspares
        view slot session hdeed hpoll hget _ _ answer view state hkeeps htrace handle hmem :=
          hkeeps.view_trace _ state fun event hevent => by
            rw [show _ = events from htrace] at hevent
            exact hspares slot session hdeed hpoll hget event hevent handle hmem
        turnedAway haccept hturned := by
          obtain rfl : deed = .accept := haccept
          exact exec_accept_turnedAway run hturned }

/-- The platform in memory, but at every listener another client waits. -/
def calledByMany (text : Text) :
    (r : Request) → UInt32 × Simulation.World → r.Answer × UInt32 × Simulation.World
  | .accept _ _, (next, world) => (.ok (⟨next⟩, ⟨.localhost, 4000⟩), next + 1, world)
  | r, (next, world) =>
    let (answer, world) := calledBy text r world
    (answer, next, world)

/-- Two clients are admitted, and one of them logs in and opens a passive listener. -/
def twoClients : List Entry × Server :=
  chronicle (calledByMany "USER ada\r\nPASS x\r\nPASV\r\n".toList)
    [.start, .register { name := "ada", password := [], root := "/srv/ftp", rights := .all },
      .accept, .accept, .receive 0, .serve 0, .serve 0, .serve 0] []
    (.create {} ⟨Config.accountLimits {}, []⟩) (100, { clock := 0 })

theorem separated_of_reachable_twoClients :
    ∃ entry older, Reachable (entry :: older) twoClients.2 ∧ Fresh (entry :: older) ∧
      entry.deed = .serve 0 ∧
      (entry.before.sessions.get? 1).map Session.control = some ⟨101⟩ ∧
      Separated entry twoClients.2 := by
  obtain ⟨entry, hentry⟩ : ∃ entry, twoClients.1.head? = some entry :=
    Option.isSome_iff_exists.1 (by decide +kernel)
  have hhistory : twoClients.1 = entry :: twoClients.1.tail :=
    (List.cons_head?_tail hentry).symm
  have hreachable : Reachable (entry :: twoClients.1.tail) twoClients.2 := by
    rw [← hhistory]
    exact Reachable.of_chronicle _ ⟨{}, _, .nil⟩ _ _
  have hfresh : Fresh (entry :: twoClients.1.tail) := by
    rw [← hhistory]
    decide +kernel
  have hdeed : twoClients.1.head?.map Entry.deed = some (.serve 0) := by decide +kernel
  have hother : (twoClients.1.head?.bind fun entry =>
      (entry.before.sessions.get? 1).map Session.control) = some ⟨101⟩ := by decide +kernel
  rw [hentry] at hdeed hother
  exact ⟨entry, _, hreachable, hfresh, Option.some.inj hdeed, hother,
    separated_of_reachable hreachable hfresh⟩

end Histories

end Ftp
