import Mathlib.Algebra.Order.Sub.Basic
import Ftp.Proofs.Handles
import Ftp.Proofs.Lifetime

/-!
# Sessions keep apart

A deed works on the handles of the session that it is about, and on those that it obtains. As long
as the platform hands out no handle that is open, it touches nothing that another session owns.

* `Program.Safe.frame`: a program that keeps to its share of what is open leaves the rest alone;
* `safe_perform_share`: the share of a deed;
* `Reachable.owned`: what a server owns is open, each handle once;
* `untouched`: no deed touches what a session owns but those about it.
-/

namespace Ftp

open Program

/-! ## Shares -/

section Shares

variable {α : Type} {own rest : Multiset Handle}

theorem closes_le {r : Request} (h : ∀ handle ∈ r.uses, handle ∈ own) : r.closes ≤ own := by
  cases r with
  | closeSocket | closeFile =>
    exact Multiset.singleton_le.2 (h _ (List.mem_singleton_self _))
  | _ => exact Multiset.zero_le own

/-- The rest stays as it is. -/
theorem next_frame {r : Request} (h : ∀ handle ∈ r.uses, handle ∈ own) (answer : r.Answer) :
    ownership.next (own + rest) r answer = ownership.next own r answer + rest := by
  simp only [ownership]
  rw [← tsub_add_eq_add_tsub (closes_le h)]
  exact add_right_comm _ _ _

/-- A program that keeps to its share of what is open leaves the rest alone. -/
theorem Program.Safe.frame {program : Program α} {post : α → Multiset Handle → Prop}
    (h : program.Safe ownership own post) {events : List Event} {value : α}
    (run : Exec program events value) (hnodup : (own + rest).Nodup)
    (hfresh : ownership.Follows (own + rest) events) :
    ∃ own', post value own' ∧ ownership.after (own + rest) events = own' + rest ∧
      (own' + rest).Nodup ∧
      ∀ event ∈ events, ∀ handle ∈ event.request.uses, handle ∉ rest := by
  induction run generalizing own with
  | done value => exact ⟨own, h, rfl, hnodup, fun _ hmem => by cases hmem⟩
  | @ask r resume answer events value run ih =>
    have hexpects : ownership.expects own r answer := fun handle hmem hown =>
      hfresh.1 handle hmem (Multiset.mem_add.2 (.inl hown))
    have hnext := nodup_next hnodup hfresh.1
    have hrest := hfresh.2
    rw [next_frame h.1] at hnext
    rw [show ownership.next (own + rest) _ _ = _ from next_frame h.1 answer] at hrest
    obtain ⟨own', hpost, hafter, hnodup', huses⟩ := ih (h.2 answer hexpects) hnext hrest
    refine ⟨own', hpost, ?_, hnodup', fun event hmem => ?_⟩
    · rw [← hafter, Monitor.after, next_frame h.1]
    · rcases List.mem_cons.1 hmem with rfl | hmem
      · exact fun handle hused =>
          Multiset.disjoint_left.1 (Multiset.nodup_add.1 hnodup).2.2 (h.1 handle hused)
      · exact huses event hmem

/-- The handles that a deed works on, apart from those that it obtains. -/
def Server.share (server : Server) : Deed → Multiset Handle
  | .advance slot | .receive slot | .serve slot | .close slot | .expire slot =>
    ((server.sessions.get? slot).map Session.handles).getD 0
  | .accept | .unlisten => listenerHandles server.listener
  | _ => 0

end Shares

section Deeds

variable {server : Server}

/-- What a deed asks for a session is within its share. -/
theorem safe_onSession_share {slot : Nat} {next : Session → Program SessionTable}
    (hnext : ∀ session, server.sessions.get? slot = some session →
      (next session).Safe ownership session.handles fun _ _ => True) :
    (server.onSession slot next).Safe ownership
      (((server.sessions.get? slot).map Session.handles).getD 0) fun _ _ => True := by
  cases hget : server.sessions.get? slot with
  | none =>
    rw [Server.onSession, hget]
    exact trivial
  | some session =>
    rw [Server.onSession_eq hget, Program.safe_bind]
    exact hnext session hget

/-- What a session keeps, it keeps on its own. -/
theorem Program.Keeps.share {α : Type} {session : Session} {program : Program (α × Session)}
    (h : program.Keeps session 0) (next : α × Session → SessionTable) :
    (program >>= fun result => Program.done (next result)).Safe ownership session.handles
      fun _ _ => True := by
  rw [Program.safe_bind, ← add_zero session.handles]
  exact Safe.mono h fun _ _ _ => trivial

/-- A start works on nothing that is open, not even on a listener from before. -/
theorem safe_perform_start (server : Server) :
    (server.perform .start).Safe ownership 0 fun server' opened =>
      server' = server ∧ opened = 0 ∨
        ∃ listener, server' = { server with listener := some listener } ∧
          opened = {.socket listener} := by
  simp only [Server.perform, Server.start, Program.safe_bind]
  refine safe_opening (fun _ hmem => absurd hmem List.not_mem_nil) rfl fun bound => ?_
  cases bound with
  | error cause => exact .inl ⟨rfl, rfl⟩
  | ok listener =>
    simp only [Program.safe_bind]
    refine (steady_using first_mem rfl rfl fun _ => rfl).mono fun endpoint _ hopened => ?_
    subst hopened
    cases endpoint <;> exact .inr ⟨listener, rfl, add_zero _⟩

theorem safe_perform_share {deed : Deed} (hpoll : deed ≠ .poll) :
    (server.perform deed).Safe ownership (server.share deed) fun _ _ => True := by
  have hclose : ∀ {slot : Nat} {session : Session}, server.sessions.get? slot = some session →
      (Server.closeSlot slot server.sessions).Safe ownership session.handles fun _ _ => True := by
    intro slot session hget
    rw [← add_zero session.handles]
    exact (safe_closeSlot_of_get? hget).mono fun _ _ _ => trivial
  cases deed with
  | poll => exact absurd rfl hpoll
  | start => exact (safe_perform_start server).mono fun _ _ _ => trivial
  | register =>
    simp only [Server.perform]
    split <;> exact trivial
  | advance slot => exact safe_onSession_share fun session _ => (keeps_step _ session).share _
  | receive slot => exact safe_onSession_share fun session _ => (keeps_receive _ session).share _
  | serve slot =>
    exact safe_onSession_share fun session _ => (keeps_processInput _ session).share _
  | accept =>
    simp only [Server.perform, Server.onListener, Server.share]
    split
    · exact trivial
    · rename_i listener hlistener
      rw [Program.safe_bind, hlistener]
      exact (safe_acceptClient (Multiset.mem_singleton_self _) _).mono fun _ _ _ => trivial
  | close slot =>
    simp only [Server.perform, Server.share, Program.safe_bind]
    cases hget : server.sessions.get? slot with
    | none =>
      unfold Server.closeSlot SessionTable.close
      rw [hget]
      exact trivial
    | some session => exact hclose hget
  | expire slot =>
    refine safe_onSession_share fun session hget => ?_
    exact (steady_say session.control_mem _ _).safe_bind fun _ => hclose hget
  | readClock => exact (steady_plain rfl rfl fun _ => rfl).safe_bind fun _ => trivial
  | unlisten =>
    simp only [Server.perform, Server.share, Program.safe_bind]
    cases server.listener with
    | none => exact trivial
    | some listener =>
      rw [show listenerHandles (some listener) = {.socket listener} + 0 from (add_zero _).symm]
      exact safe_closeSocket listener trivial

end Deeds

/-! ## Over a history -/

/-- The platform has handed out no handle that was open. -/
structure Fresh (history : List Entry) : Prop where
  follows : ownership.Follows 0 (eventsOf history)

instance (opened : Multiset Handle) (r : Request) (answer : r.Answer) :
    Decidable (ownership.expects opened r answer) :=
  inferInstanceAs (Decidable (∀ handle ∈ r.gives answer, handle ∉ opened))

instance (history : List Entry) : Decidable (Fresh history) :=
  decidable_of_iff (ownership.Follows 0 (eventsOf history)) ⟨Fresh.mk, Fresh.follows⟩

/-- What is open after a history. -/
def openAfter (history : List Entry) : Multiset Handle :=
  ownership.after 0 (eventsOf history)

section Histories

variable {history : List Entry} {server server' : Server} {deed : Deed} {events : List Event}

theorem fresh_iff : Fresh history ↔ ownership.Follows 0 (eventsOf history) :=
  ⟨Fresh.follows, Fresh.mk⟩

theorem fresh_cons {entry : Entry} :
    Fresh (entry :: history) ↔
      Fresh history ∧ ownership.Follows (openAfter history) entry.events := by
  rw [fresh_iff, fresh_iff, eventsOf_cons, Monitor.follows_append]
  rfl

theorem openAfter_cons (entry : Entry) :
    openAfter (entry :: history) = ownership.after (openAfter history) entry.events := by
  rw [openAfter, eventsOf_cons, Monitor.after_append]
  rfl

/-- What is open holds what the server owns, and no handle twice. -/
structure Server.Owned (server : Server) (opened : Multiset Handle) : Prop where
  le : server.handles ≤ opened
  nodup : opened.Nodup

/-- A deed leaves what the server owns open. -/
theorem Server.Owned.perform {opened : Multiset Handle} (h : server.Owned opened)
    (placed : server.sessions.Placed) (run : Exec (server.perform deed) events server')
    (hfresh : ownership.Follows opened events) : server'.Owned (ownership.after opened events) := by
  cases hroutine : deed.isRoutine with
  | true =>
    obtain ⟨rest, rfl⟩ := Multiset.le_iff_exists_add.1 h.le
    have hsafe := upholds_ownership server _ deed hroutine placed rfl
    obtain ⟨_, rfl, hafter, hnodup, -⟩ := hsafe.frame run h.nodup hfresh
    rw [hafter]
    exact ⟨Multiset.le_add_right _ _, hnodup⟩
  | false =>
    cases deed with
    | register =>
      simp only [Server.perform] at run
      split at run <;>
      · obtain ⟨rfl, rfl⟩ := exec_done_iff.1 run
        exact ⟨h.le, h.nodup⟩
    | start =>
      obtain ⟨_, hleft, hafter, hnodup, -⟩ :=
        (safe_perform_start server).frame run ((zero_add opened).symm ▸ h.nodup)
          ((zero_add opened).symm ▸ hfresh)
      rw [zero_add] at hafter
      rw [hafter]
      refine ⟨?_, hnodup⟩
      rcases hleft with ⟨rfl, rfl⟩ | ⟨listener, rfl, rfl⟩
      · exact h.le.trans (Multiset.le_add_left _ _)
      · exact add_le_add le_rfl ((Multiset.le_add_left _ _).trans h.le)
    | _ => cases hroutine

theorem Reachable.owned (h : Reachable history server) (fresh : Fresh history) :
    server.Owned (openAfter history) := by
  obtain ⟨config, accounts, hleads⟩ := h
  induction hleads with
  | nil =>
    have hempty : (Server.create config accounts).handles = 0 :=
      Server.IsDown.handles_eq_zero ⟨rfl, fun slot => SessionTable.get?_free _ _ slot⟩
    exact ⟨hempty.le, Multiset.nodup_zero⟩
  | cons hleads run ih =>
    obtain ⟨hbefore, hevents⟩ := fresh_cons.1 fresh
    rw [openAfter_cons]
    exact (ih hbefore).perform (hleads.placed (SessionTable.placed_free _ _)) run hevents

theorem handles_le {slot : Nat} {session : Session}
    (get : server.sessions.get? slot = some session) :
    session.handles ≤ server.sessions.handles := by
  rw [SessionTable.handles_eq_of_get? get]
  exact Multiset.le_add_right _ _

/-- What a session owns is open. -/
theorem Server.Owned.le_opened {opened : Multiset Handle} (h : server.Owned opened) {slot : Nat}
    {session : Session} (get : server.sessions.get? slot = some session) :
    session.handles ≤ opened :=
  ((handles_le get).trans (Multiset.le_add_left _ _)).trans h.le

/-- Two sessions own nothing together. -/
theorem handles_add_handles_le {slot other : Nat} {session session' : Session}
    (get : server.sessions.get? slot = some session)
    (get' : server.sessions.get? other = some session') (hne : other ≠ slot) :
    session'.handles + session.handles ≤ server.sessions.handles := by
  have hrest : (server.sessions.erase other).get? slot = some session := by
    rw [SessionTable.get?_erase_of_ne _ hne, get]
  rw [SessionTable.handles_eq_of_get? get', SessionTable.handles_eq_of_get? hrest, ← add_assoc]
  exact Multiset.le_add_right _ _

theorem Server.Owned.disjoint_handles {opened : Multiset Handle} (h : server.Owned opened)
    {slot other : Nat} {session session' : Session}
    (get : server.sessions.get? slot = some session)
    (get' : server.sessions.get? other = some session') (hne : other ≠ slot) :
    Disjoint session'.handles session.handles := by
  have hle := (handles_add_handles_le get get' hne).trans
    ((Multiset.le_add_left _ _).trans h.le)
  exact (Multiset.nodup_add.1 (Multiset.nodup_of_le hle h.nodup)).2.2

/-- What a session owns is apart from what a deed works on that is not about it. -/
theorem share_add_handles_le {slot : Nat} {session : Session}
    (get : server.sessions.get? slot = some session) (hdeed : deed.slot? ≠ some slot) :
    server.share deed + session.handles ≤ server.handles := by
  have hsession : ∀ other : Nat, other ≠ slot →
      ((server.sessions.get? other).map Session.handles).getD 0 + session.handles ≤
        server.handles := by
    intro other hne
    refine le_trans ?_ (Multiset.le_add_left _ (listenerHandles server.listener))
    cases hget : server.sessions.get? other with
    | none => exact (zero_add session.handles).symm ▸ handles_le get
    | some session' => exact handles_add_handles_le get hget hne
  cases deed with
  | advance other | receive other | serve other | close other | expire other =>
    exact hsession other fun heq => hdeed (congrArg some heq)
  | accept | unlisten => exact add_le_add le_rfl (handles_le get)
  | start | register | poll | readClock =>
    refine le_trans ?_ (Multiset.le_add_left _ (listenerHandles server.listener))
    exact (zero_add session.handles).symm ▸ handles_le get

/-- No deed touches what a session owns, unless it is about the session or waits for all of them. -/
theorem untouched {slot : Nat} {session : Session} {opened : Multiset Handle}
    (h : server.Owned opened) (run : Exec (server.perform deed) events server')
    (hfresh : ownership.Follows opened events)
    (get : server.sessions.get? slot = some session) (hdeed : deed.slot? ≠ some slot)
    (hpoll : deed ≠ .poll) :
    ∀ event ∈ events, ∀ handle ∈ event.request.uses, handle ∉ session.handles := by
  obtain ⟨others, rfl⟩ :=
    Multiset.le_iff_exists_add.1 ((share_add_handles_le get hdeed).trans h.le)
  rw [add_assoc] at h hfresh
  obtain ⟨-, -, -, -, huses⟩ := (safe_perform_share hpoll).frame run h.nodup hfresh
  intro event hevent handle hhandle hmem
  exact huses event hevent handle hhandle (Multiset.mem_add.2 (.inl hmem))

end Histories

end Ftp
