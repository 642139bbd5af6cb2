import Ftp.Proofs.Forwarding
import Ftp.Proofs.Login

/-!
# Availability of passive listeners

Each slot has a passive port of its own, and all that a server ever binds are these ports and its
control port. So where a port cannot be bound only while the server holds it itself, a `PASV` finds
the port of its slot free once it has given up the listener before, as long as the control port is
not among the passive ports. Nothing makes sure of that: a configuration in which it is one of them
is valid, and then the `PASV` of that slot fails each time.

* `Config.PortsApart`: what the ports of a configuration should be like;
* `Reachable.holds`: a port that is held is held by the listener that it is meant for;
* `available_of_reachable`: what a `PASV` comes to;
* `sharedPort_unavailable`: what it comes to where the ports are not apart.
-/

namespace Ftp

open Program

/-! ## The ports of a configuration -/

/-- The configuration is valid, and the control port is not a passive port. -/
structure Config.PortsApart (config : Config) : Prop where
  valid : config.fault? = .ok none
  apart : ∀ slot < config.maxSessions.toNat,
    config.controlPort.toNat ≠ config.passivePortBase.toNat + slot

/-- The port belongs to the slot and to no other, and is not the control port. -/
structure Config.OwnPort (config : Config) (slot : Nat) (port : UInt16) : Prop where
  passivePort : DataChannel.passivePort config.passivePortBase slot = .ok port
  toNat_eq : port.toNat = config.passivePortBase.toNat + slot
  ne_zero : port ≠ 0
  ne_control : port ≠ config.controlPort
  unique : ∀ other < config.maxSessions.toNat,
    DataChannel.passivePort config.passivePortBase other = .ok port → other = slot

theorem Config.PortsApart.exists_ownPort {config : Config} (h : config.PortsApart) {slot : Nat}
    (hslot : slot < config.maxSessions.toNat) : ∃ port, config.OwnPort slot port := by
  have hvalid := config.fault?_eq_ok_none_iff.1 h.valid
  have hlt : config.passivePortBase.toNat + slot < UInt16.size := by
    obtain ⟨last, hlast, hle⟩ := hvalid.lastPassivePort_le
    have hcount := (config.lastPassivePort_eq_ok_iff.1 hlast).2
    have hle : last.toNat ≤ 65535 := UInt64.le_iff_toNat_le.1 hle
    rw [UInt16.size]
    omega
  have hport : DataChannel.passivePort config.passivePortBase slot =
      .ok (UInt16.ofNat (config.passivePortBase.toNat + slot)) := if_pos hlt
  have hrange := toNat_passivePort hport
  refine ⟨_, hport, hrange, fun hzero => hvalid.passivePortBase_ne_zero ?_,
    fun hcontrol => h.apart slot hslot ?_, fun other _ hother => ?_⟩
  · rw [hzero] at hrange
    exact UInt16.toNat_inj.1 (Nat.eq_zero_of_add_eq_zero_right hrange.symm)
  · rw [← hcontrol, hrange]
  · have hrange' := toNat_passivePort hother
    omega

/-! ## Ports that are held -/

/-- The port that the request asks for, and what it is answered. -/
def Request.binding? : (r : Request) → r.Answer → Option (UInt16 × Except IoError Socket)
  | .listen endpoint, answer => some (endpoint.port, answer)
  | _, _ => none

/-- Knows which listener holds which port, and expects that exactly the ports that are held cannot
be bound. -/
def binding : Monitor (List (Socket × UInt16)) where
  allows _ _ := True
  expects held r answer := ∀ attempt ∈ r.binding? answer,
    attempt.2.isOk = false ↔ attempt.1 ∈ held.map Prod.snd
  next held r answer :=
    match r, answer with
    | .listen endpoint, .ok socket => (socket, endpoint.port) :: held
    | .closeSocket socket, _ => held.filter fun bound => bound.1 ≠ socket
    | _, _ => held

instance decidableExpectsBinding (held : List (Socket × UInt16)) (r : Request)
    (answer : r.Answer) : Decidable (binding.expects held r answer) :=
  inferInstanceAs (Decidable (∀ attempt ∈ r.binding? answer,
    attempt.2.isOk = false ↔ attempt.1 ∈ held.map Prod.snd))

/-- The ports that are held after the events, with their listeners. -/
abbrev heldAfter (events : List Event) : List (Socket × UInt16) :=
  binding.after [] events

section Bindings

variable {held : List (Socket × UInt16)} {bound : Socket × UInt16} {events : List Event}

theorem mem_next_binding {event : Event}
    (h : bound ∈ binding.next held event.request event.answer) :
    (∃ ip, event = ⟨.listen ⟨ip, bound.2⟩, .ok bound.1⟩) ∨
      bound ∈ held ∧ event ≠ ⟨.closeSocket bound.1, ()⟩ := by
  obtain ⟨request, answer⟩ := event
  cases request with
  | listen endpoint =>
    cases answer with
    | error cause => exact .inr ⟨h, nofun⟩
    | ok socket =>
      rcases List.mem_cons.1 h with rfl | h
      · exact .inl ⟨endpoint.ip, rfl⟩
      · exact .inr ⟨h, nofun⟩
  | closeSocket socket =>
    obtain ⟨hheld, hne⟩ := List.mem_filter.1 h
    refine .inr ⟨hheld, fun heq => of_decide_eq_true hne ?_⟩
    cases heq
    rfl
  | _ => exact .inr ⟨h, nofun⟩

/-- What is held in the end has been bound in between, or was held before and has not been
closed. -/
theorem mem_after_binding (h : bound ∈ binding.after held events) :
    (∃ ip, (⟨.listen ⟨ip, bound.2⟩, .ok bound.1⟩ : Event) ∈ events) ∨
      bound ∈ held ∧ (⟨.closeSocket bound.1, ()⟩ : Event) ∉ events := by
  induction events generalizing held with
  | nil => exact .inr ⟨h, List.not_mem_nil⟩
  | cons event events ih =>
    rcases ih h with ⟨ip, hmem⟩ | ⟨hnext, hopen⟩
    · exact .inl ⟨ip, List.mem_cons_of_mem _ hmem⟩
    rcases mem_next_binding hnext with ⟨ip, rfl⟩ | ⟨hheld, hne⟩
    · exact .inl ⟨ip, List.mem_cons_self⟩
    · exact .inr ⟨hheld, fun hmem => (List.mem_cons.1 hmem).elim (hne ·.symm) hopen⟩

/-- What is held stays held until it is closed. -/
theorem mem_after_binding_of_open (h : bound ∈ held)
    (hopen : ∀ event ∈ events, event.request ≠ .closeSocket bound.1) :
    bound ∈ binding.after held events := by
  induction events generalizing held with
  | nil => exact h
  | cons event events ih =>
    refine ih ?_ fun event hmem => hopen event (List.mem_cons_of_mem _ hmem)
    have hfirst := hopen event List.mem_cons_self
    obtain ⟨request, answer⟩ := event
    cases request with
    | listen endpoint =>
      cases answer with
      | error cause => exact h
      | ok socket => exact List.mem_cons_of_mem _ h
    | closeSocket socket =>
      exact List.mem_filter.2 ⟨h, decide_eq_true fun heq => hfirst (congrArg _ heq.symm)⟩
    | _ => exact h

end Bindings

/-! ## Who holds them -/

/-- The listener is the control listener or that of a session, at the port that is meant for it. -/
inductive Server.Holds (server : Server) : Socket × UInt16 → Prop
  | control {listener : Socket} (listening : server.listener = some listener) :
    server.Holds (listener, server.config.controlPort)
  | passive {slot : Nat} {session : Session} {listener : Socket} {port : UInt16}
    (get : server.sessions.get? slot = some session)
    (listening : session.passiveListener = some listener)
    (range : port.toNat = server.config.passivePortBase.toNat + slot) :
    server.Holds (listener, port)

section Deeds

variable {server server' : Server} {deed : Deed} {events : List Event} {slot : Nat}
  {setting : Setting} {session session' : Session} {held : List (Socket × UInt16)}
  {bound : Socket × UInt16}

theorem Outcome.listener_eq (h : Outcome server deed server') (hstart : deed ≠ .start)
    (hunlisten : deed ≠ .unlisten) : server'.listener = server.listener := by
  cases h with
  | started => exact absurd rfl hstart
  | unlistened => exact absurd rfl hunlisten
  | _ => rfl

/-- A port stays with its holder unless the deed takes it away. -/
theorem Server.Holds.of_outcome (h : server.Holds bound) (outcome : Outcome server deed server')
    (hcontrol : server.listener = some bound.1 → bound.2 = server.config.controlPort →
      server'.listener = some bound.1)
    (hpassive : ∀ slot session, deed.slot? = some slot → server.sessions.get? slot = some session →
      session.passiveListener = some bound.1 → ∃ session',
        server'.sessions.get? slot = some session' ∧ session'.passiveListener = some bound.1) :
    server'.Holds bound := by
  cases h with
  | control listening => exact outcome.config_eq ▸ .control (hcontrol listening rfl)
  | @passive slot session _ _ get listening range =>
    rw [← outcome.config_eq] at range
    by_cases hdeed : deed.slot? = some slot
    · obtain ⟨session', get', listening'⟩ := hpassive slot session hdeed get listening
      exact .passive get' listening' range
    · exact .passive (outcome.get?_of_foreign get hdeed) listening range

theorem listen_not_mem_passiveClosed {endpoint : Endpoint} {answer : Except IoError Socket} :
    (⟨.listen endpoint, answer⟩ : Event) ∉ session.passiveClosed := by
  simp [Session.passiveClosed]

theorem closeSocket_mem_passiveClosed {listener : Socket}
    (h : session.passiveListener = some listener) :
    (⟨.closeSocket listener, ()⟩ : Event) ∈ session.passiveClosed := by
  simp [Session.passiveClosed, h]

theorem listen_not_mem_dismantled {endpoint : Endpoint} {answer : Except IoError Socket} :
    (⟨.listen endpoint, answer⟩ : Event) ∉ session.dismantled := by
  cases htransmission : session.transmission <;>
    simp [Session.dismantled, Session.passiveClosed, htransmission, Transmission.released]

/-- A listener that has been bound for a session is the listener of the session. -/
theorem PassiveRun.eq_some_of_listen (h : PassiveRun setting session events session')
    {endpoint : Endpoint} {listener : Socket}
    (hmem : (⟨.listen endpoint, .ok listener⟩ : Event) ∈ events) :
    session'.passiveListener = some listener ∧
      endpoint.port.toNat = setting.config.passivePortBase.toNat + session.slot := by
  cases h with
  | kept aside => cases aside _ hmem
  | closed aside =>
    have hafter := (List.mem_append.1 hmem).resolve_left listen_not_mem_passiveClosed
    rcases aside _ hafter with ⟨_, _, heq⟩ | haside
    · cases heq
    · cases haside
  | opened range listening clock hlistener =>
    have hopening := (List.mem_append.1 hmem).resolve_left listen_not_mem_passiveClosed
    rcases List.mem_append.1 hopening with hopening | hafter
    · obtain ⟨rest, rfl, hrest⟩ := listening.eq_cons
      rcases List.mem_cons.1 hopening with heq | hrestmem
      · cases heq
        exact ⟨hlistener, range⟩
      · have hgives := (hrest _ hrestmem (.socket listener)).gives
        exact absurd (Multiset.mem_singleton_self _) hgives
    · rcases List.mem_cons.1 hafter with heq | hclock
      · cases heq
      · cases clock _ hclock

/-- The listener of a session is closed before the session has another one, or none. -/
theorem PassiveRun.closed_or_eq (h : PassiveRun setting session events session') {listener : Socket}
    (hlistener : session.passiveListener = some listener) :
    (⟨.closeSocket listener, ()⟩ : Event) ∈ events ∨ session'.passiveListener = some listener := by
  cases h with
  | kept _ same => exact .inr (same.trans hlistener)
  | closed | opened =>
    exact .inl (List.mem_append_left _ (closeSocket_mem_passiveClosed hlistener))

/-- What a deed about a slot does with the listener of its session. -/
theorem exec_listener (placed : server.sessions.Placed) (hdeed : deed.slot? = some slot)
    (get : server.sessions.get? slot = some session)
    (run : Exec (server.perform deed) events server') :
    (∀ endpoint listener, (⟨.listen endpoint, .ok listener⟩ : Event) ∈ events →
      ∃ session', server'.sessions.get? slot = some session' ∧
        session'.passiveListener = some listener ∧
        endpoint.port.toNat = server.config.passivePortBase.toNat + slot) ∧
    ∀ listener, session.passiveListener = some listener →
      (⟨.closeSocket listener, ()⟩ : Event) ∈ events ∨
        ∃ session', server'.sessions.get? slot = some session' ∧
          session'.passiveListener = some listener := by
  cases hget' : server'.sessions.get? slot with
  | some session' =>
    have hrun := exec_passiveRun placed hdeed get run hget'
    refine ⟨fun endpoint listener hmem => ?_, fun listener hlistener => ?_⟩
    · obtain ⟨hlistener, hrange⟩ := hrun.eq_some_of_listen hmem
      exact ⟨session', rfl, hlistener, placed slot session get ▸ hrange⟩
    · exact (hrun.closed_or_eq hlistener).imp_right fun h => ⟨session', rfl, h⟩
  | none =>
    have hevents := exec_departure placed hdeed get run hget'
    refine ⟨fun endpoint listener hmem => ?_, fun listener hlistener => .inl ?_⟩
    · rcases hevents with rfl | rfl
      · exact absurd hmem listen_not_mem_dismantled
      · exact absurd ((List.mem_cons.1 hmem).resolve_left nofun) listen_not_mem_dismantled
    · have hclosed : (⟨.closeSocket listener, ()⟩ : Event) ∈ session.dismantled :=
        List.mem_append_right _ (List.mem_append_left _ (closeSocket_mem_passiveClosed hlistener))
      rcases hevents with rfl | rfl
      · exact hclosed
      · exact List.mem_cons_of_mem _ hclosed

theorem exec_perform_start (run : Exec (server.perform .start) events server') :
    (∃ cause, events = [⟨.listen server.config.controlEndpoint, .error cause⟩] ∧
      server' = server) ∨
    ∃ listener answer, server' = { server with listener := some listener } ∧
      events = [⟨.listen server.config.controlEndpoint, .ok listener⟩,
        ⟨.localAddress listener, answer⟩] := by
  simp only [Server.perform, Server.start, request, ask_bind, done_bind, exec_ask_iff] at run
  obtain ⟨bound, rest, rfl, run⟩ := run
  cases bound with
  | error cause =>
    obtain ⟨rfl, rfl⟩ := exec_done_iff.1 run
    exact .inl ⟨cause, rfl, rfl⟩
  | ok listener =>
    obtain ⟨answer, _, rfl, hanswer⟩ := exec_ask_iff.1 run
    refine .inr ⟨listener, answer, ?_⟩
    cases answer <;>
    · obtain ⟨rfl, rfl⟩ := exec_done_iff.1 hanswer
      exact ⟨rfl, rfl⟩

/-- Each deed leaves the ports with those that they are meant for. -/
theorem holds_perform (placed : server.sessions.Placed)
    (holds : ∀ bound ∈ held, server.Holds bound)
    (run : Exec (server.perform deed) events server') (faithful : binding.Follows held events) :
    ∀ bound ∈ binding.after held events, server'.Holds bound := by
  intro bound hbound
  have houtcome := (returns_perform placed deed).of_exec run
  cases hdeed : deed.slot? with
  | some slot =>
    have hlistener := houtcome.listener_eq (by rintro rfl; cases hdeed) (by rintro rfl; cases hdeed)
    cases hget : server.sessions.get? slot with
    | none =>
      obtain ⟨rfl, rfl⟩ := eq_of_perform_vacant hdeed hget run
      exact holds bound hbound
    | some session =>
      obtain ⟨hlistens, hkeeps⟩ := exec_listener placed hdeed hget run
      rcases mem_after_binding hbound with ⟨ip, hmem⟩ | ⟨hheld, hopen⟩
      · obtain ⟨session', hget', hlistening, hrange⟩ := hlistens _ _ hmem
        exact .passive hget' hlistening (houtcome.config_eq.symm ▸ hrange)
      · refine (holds bound hheld).of_outcome houtcome (fun h _ => hlistener.trans h) ?_
        intro _ _ hslot hget' hlistening
        obtain rfl := Option.some.inj (hdeed.symm.trans hslot)
        obtain rfl := Option.some.inj (hget.symm.trans hget')
        exact (hkeeps _ hlistening).resolve_left hopen
  | none =>
    have hforeign : ∀ {bound}, server.Holds bound →
        (server.listener = some bound.1 → bound.2 = server.config.controlPort →
          server'.listener = some bound.1) → server'.Holds bound := fun h hcontrol =>
      h.of_outcome houtcome hcontrol fun _ _ hslot => by rw [hdeed] at hslot; cases hslot
    by_cases hstart : deed = .start
    · subst hstart
      rcases exec_perform_start run with ⟨cause, rfl, rfl⟩ | ⟨listener, answer, rfl, rfl⟩
      · exact holds bound hbound
      · rcases List.mem_cons.1 hbound with rfl | hheld
        · exact .control rfl
        · -- The control port was free, so that nobody holds it from before.
          refine hforeign (holds bound hheld) fun _ hport => ?_
          have hmem : bound.2 ∈ held.map Prod.snd := List.mem_map_of_mem hheld
          rw [hport] at hmem
          cases (faithful.1 _ rfl).2 hmem
    · rcases mem_after_binding hbound with ⟨ip, hmem⟩ | ⟨hheld, hopen⟩
      · rcases AsksOnly.of_exec (asksOnly_perform_slotless hdeed) run _ hmem with
          hfree | ⟨_, _, haccept⟩ | ⟨hdeed, -⟩
        · cases hfree
        · cases haccept
        · exact absurd hdeed hstart
      · refine hforeign (holds bound hheld) fun hlistening _ => ?_
        by_cases hunlisten : deed = .unlisten
        · subst hunlisten
          obtain ⟨closing, _, _, rfl, hclose, -⟩ := Exec.bind_iff.1 run
          rw [hlistening] at hclose
          rw [exec_request hclose] at hopen
          exact absurd (List.mem_append_left _ (List.mem_singleton_self _)) hopen
        · exact (houtcome.listener_eq hstart hunlisten).trans hlistening

end Deeds

/-! ## Over a history -/

section Histories

variable {history : List Entry} {server : Server} {slot : Nat} {session : Session}

/-- Where a port is held, it is held by the listener that it is meant for. -/
theorem Reachable.holds (h : Reachable history server)
    (faithful : binding.Follows [] (eventsOf history)) :
    ∀ bound ∈ heldAfter (eventsOf history), server.Holds bound := by
  induction history generalizing server with
  | nil => exact fun _ hmem => absurd hmem List.not_mem_nil
  | cons entry older ih =>
    obtain ⟨hreachable, run⟩ := h.of_cons
    rw [eventsOf_cons, Monitor.follows_append] at faithful
    rw [eventsOf_cons, heldAfter, Monitor.after_append]
    exact holds_perform hreachable.placed (ih hreachable faithful.1) run faithful.2

theorem Outcome.capacity_eq {server' : Server} {deed : Deed} (h : Outcome server deed server') :
    server'.sessions.capacity = server.sessions.capacity := by
  cases h with
  | nothing | started | registered | unlistened => rfl
  | admitted hinsert =>
    obtain ⟨-, -, rfl⟩ := SessionTable.insert_eq_ok hinsert
    exact List.length_set
  | changed | closed => exact List.length_set

theorem Reachable.capacity_eq (h : Reachable history server) :
    server.sessions.capacity = server.config.maxSessions.toNat := by
  induction history generalizing server with
  | nil =>
    obtain ⟨config, accounts, hleads⟩ := h
    cases hleads
    exact List.length_replicate
  | cons entry older ih =>
    obtain ⟨hreachable, run⟩ := h.of_cons
    have houtcome := hreachable.outcome run
    rw [houtcome.capacity_eq, houtcome.config_eq, ih hreachable]

/-- Once the session has given up its own listener, the port of its slot is free. -/
theorem Reachable.port_notMem (h : Reachable history server)
    (faithful : binding.Follows [] (eventsOf history))
    (get : server.sessions.get? slot = some session) {port : UInt16}
    (hport : server.config.OwnPort slot port) :
    port ∉ (binding.after (heldAfter (eventsOf history)) session.passiveClosed).map Prod.snd := by
  intro hmem
  obtain ⟨bound, hbound, rfl⟩ := List.mem_map.1 hmem
  rcases mem_after_binding hbound with ⟨ip, hlisten⟩ | ⟨hheld, hopen⟩
  · exact absurd hlisten listen_not_mem_passiveClosed
  · cases h.holds faithful bound hheld with
    | control => exact hport.ne_control rfl
    | @passive other session' listener port get' listening range =>
      have hrange : port.toNat = server.config.passivePortBase.toNat + slot := hport.toNat_eq
      obtain rfl : other = slot := by omega
      obtain rfl := Option.some.inj (get.symm.trans get')
      exact hopen (closeSocket_mem_passiveClosed listening)

end Histories

/-! ## Lines -/

section Lines

variable {setting : Setting} {session session' : Session} {events : List Event} {port : UInt16}
  {held : List (Socket × UInt16)}

/-- A session that is logged in needs no right for a listener. -/
theorem verdict_pasv_eq_run (hlogin : session.isLoggedIn = true)
    (hidle : session.isTransferring = false) (haccount : session.HasAccount setting.accounts) :
    Dispatch.verdict setting session .pasv = .run := by
  rw [isLoggedIn_eq] at hlogin
  obtain ⟨id, hid⟩ := Option.isSome_iff_exists.1 hlogin
  obtain ⟨account, hget⟩ := haccount id (Option.ite_none_right_eq_some.1 hid).2
  have hgrants : setting.accounts.grants id Command.pasv.rights = true := by
    rw [Registry.grants, hget]
    rfl
  simp [Dispatch.verdict, Dispatch.access, Command.needsLogin, hid, hgrants, hidle]

/-- What a `PASV` comes to where the port of its slot is free. -/
structure Announces (session : Session) (port : UInt16) (held : List (Socket × UInt16))
    (events : List Event) (result : Status × Session) : Prop where
  status : result.1 = .success
  replies : ∃ ip, repliesIn events =
    [(session.control, .line 227 (Reply.passiveAddress ⟨ip, port⟩))]
  passive : result.2.passive = true
  /-- The session has a listener, which holds the port. -/
  listener : ∃ listener, result.2.passiveListener = some listener ∧
    (listener, port) ∈ binding.after held events

theorem exec_pasv_of_free {result : Status × Session}
    (hport : DataChannel.passivePort setting.config.passivePortBase session.slot = .ok port)
    (hfree : port ∉ (binding.after held session.passiveClosed).map Prod.snd)
    (run : Exec (Action.pasv setting session) events result)
    (faithful : binding.Follows held events) : Announces session port held events result := by
  obtain ⟨_, ⟨opened?, session'⟩, answer, rfl, hopen, hanswer⟩ := Exec.bind_iff.1 run
  obtain ⟨opening, rfl, hrun⟩ := exec_openPassive_run hopen
  cases hrun with
  | outOfRange range => cases hport.symm.trans range
  | refused range cause =>
    cases hport.symm.trans range
    rw [List.append_assoc, Monitor.follows_append] at faithful
    exact absurd ((faithful.2.1 _ rfl).1 rfl) hfree
  | @opened bound listener _ outer ip range listening =>
    obtain rfl : bound = port := UInt16.toNat_inj.1 (range.trans (toNat_passivePort hport).symm)
    obtain ⟨rfl, rfl⟩ := (plays_succeed ..).eq_of_exec hanswer
    refine ⟨rfl, ⟨ip, ?_⟩, rfl, listener, rfl, ?_⟩
    · have hopening : repliesIn opening = [] := by cases listening <;> rfl
      rw [repliesIn_append, repliesIn_append, repliesIn_passiveClosed, hopening]
      rfl
    · obtain ⟨rest, rfl, hrest⟩ := listening.eq_cons
      rw [List.append_assoc, Monitor.after_append, List.cons_append, Monitor.after]
      refine mem_after_binding_of_open List.mem_cons_self fun event hmem hclose => ?_
      rcases List.mem_append.1 hmem with hmem | hmem
      · have hcloses := (hrest event hmem (.socket listener)).closes
        rw [hclose] at hcloses
        exact hcloses (Multiset.mem_singleton_self _)
      · rw [List.mem_singleton.1 hmem] at hclose
        cases hclose

/-- A line that finds the command, of a session for which the port of its slot is free. -/
theorem announces_of_exec {raw : Text} {result : Status × Session}
    (find : Command.find? (Command.upperVerb raw) setting.config.extensions = some .pasv)
    (verdict : Dispatch.verdict setting session .pasv = .run)
    (hport : DataChannel.passivePort setting.config.passivePortBase session.slot = .ok port)
    (hfree : port ∉ (binding.after held session.passiveClosed).map Prod.snd)
    (run : Exec (Dispatch.dispatch setting session raw) events result)
    (faithful : binding.Follows held events) : Announces session port held events result := by
  cases exec_dispatch run with
  | unknown find' => cases find.symm.trans find'
  | notLoggedIn find' verdict' | denied find' verdict' | ignored find' verdict' =>
    cases find.symm.trans find'
    cases verdict.symm.trans verdict'
  | run find' _ hrun now =>
    cases find.symm.trans find'
    obtain ⟨hstatus, ⟨ip, hreplies⟩, hpassive, listener, hlistener, hheld⟩ :=
      exec_pasv_of_free hport hfree hrun (Monitor.follows_append.1 faithful).1
    refine ⟨hstatus, ⟨ip, ?_⟩, hpassive, listener, hlistener, ?_⟩
    · rw [repliesIn_append, hreplies]
      rfl
    · rw [Monitor.after_append]
      exact hheld

end Lines

/-- How it stands with the passive ports of a server. -/
structure Available (history : List Entry) (server : Server) : Prop where
  ports : ∀ slot < server.config.maxSessions.toNat, ∃ port, server.config.OwnPort slot port
  /-- A session that is logged in, and not in the middle of a transfer, gets a listener on the port
  of its slot, and is told of it. -/
  announced : ∀ slot session, server.sessions.get? slot = some session →
    session.isLoggedIn = true → session.isTransferring = false → ∀ input raw,
    Command.find? (Command.upperVerb raw) server.config.extensions = some .pasv →
    ∀ events result,
    Exec (Dispatch.dispatch server.setting { session with input } raw) events result →
    binding.Follows (heldAfter (eventsOf history)) events →
    ∃ port, server.config.OwnPort slot port ∧
      Announces session port (heldAfter (eventsOf history)) events result

/-- Where only a port that the server holds itself cannot be bound, and the control port is none of
the passive ports, every `PASV` that is heard succeeds. -/
theorem available_of_reachable {history : List Entry} {server : Server}
    (h : Reachable history server) (apart : server.config.PortsApart)
    (faithful : binding.Follows [] (eventsOf history)) : Available history server where
  ports slot hslot := apart.exists_ownPort hslot
  announced slot session get hlogin hidle input raw find events result run hevents := by
    have hslot : slot < server.config.maxSessions.toNat :=
      h.capacity_eq ▸ SessionTable.lt_capacity_of_get? get
    obtain ⟨port, hport⟩ := apart.exists_ownPort hslot
    obtain rfl := h.placed slot session get
    have haccount := h.hasAccount get
    have hverdict : Dispatch.verdict server.setting { session with input } .pasv = .run :=
      verdict_pasv_eq_run hlogin hidle haccount
    have hfree : port ∉ (binding.after (heldAfter (eventsOf history))
        ({ session with input } : Session).passiveClosed).map Prod.snd :=
      h.port_notMem faithful get hport
    have hannounces := announces_of_exec find hverdict hport.passivePort hfree run hevents
    exact ⟨port, hport, hannounces.status, hannounces.replies, hannounces.passive,
      hannounces.listener⟩

/-! ## With and without a port of its own -/

/-- A client has logged in to a server of the configuration. -/
def loggedInTo (config : Config) : List Event × Server × Simulation.World :=
  let account : Account := { name := "ada", password := [], root := "/srv/ftp", rights := .all }
  let deeds := [.start, .register account, .accept, .receive 0, .serve 0, .serve 0]
  ((Server.create config ⟨Config.accountLimits {}, []⟩).performAll deeds).trace
    (calledBy "USER ada\r\nPASS x\r\n".toList) { clock := 0 }

theorem exists_loggedInTo (config : Config) :
    ∃ history, Reachable history (loggedInTo config).2.1 ∧
      eventsOf history = (loggedInTo config).1 := by
  obtain ⟨history, hleads, hevents⟩ := Leads.of_performAll (exec_trace _ _ _)
  exact ⟨history, ⟨config, _, hleads⟩, hevents⟩

/-- The client sends `PASV`. -/
def pasvTo (config : Config) (session : Session) :
    List Event × (Status × Session) × Simulation.World :=
  (Dispatch.dispatch (loggedInTo config).2.1.setting session "PASV".toList).trace (calledBy [])
    (loggedInTo config).2.2

theorem available_of_reachable_pasv :
    ∃ history, Reachable history (loggedInTo {}).2.1 ∧ (loggedInTo {}).2.1.config.PortsApart ∧
      binding.Follows [] (eventsOf history) ∧ Available history (loggedInTo {}).2.1 ∧
      ∃ session, (loggedInTo {}).2.1.sessions.get? 0 = some session ∧
        Announces session 50000 (heldAfter (eventsOf history)) (pasvTo {} session).1
          (pasvTo {} session).2.1 := by
  obtain ⟨history, hreachable, hevents⟩ := exists_loggedInTo {}
  have hconfig : (loggedInTo {}).2.1.config = {} := by decide +kernel
  have hapart : (loggedInTo {}).2.1.config.PortsApart := by
    rw [hconfig]
    exact ⟨by decide, by decide⟩
  have hfaithful : binding.Follows [] (eventsOf history) := by
    rw [hevents]
    decide +kernel
  have havailable := available_of_reachable hreachable hapart hfaithful
  obtain ⟨session, hsession⟩ : ∃ session, (loggedInTo {}).2.1.sessions.get? 0 = some session :=
    Option.isSome_iff_exists.1 (by decide +kernel)
  have hready : ∀ session ∈ (loggedInTo {}).2.1.sessions.get? 0,
      session.isLoggedIn = true ∧ session.isTransferring = false ∧
        binding.Follows (heldAfter (loggedInTo {}).1) (pasvTo {} session).1 := by
    decide +kernel
  obtain ⟨hlogin, hidle, hfollows⟩ := hready session hsession
  have hfind : Command.find? (Command.upperVerb "PASV".toList)
      (loggedInTo {}).2.1.config.extensions = some .pasv := by
    rw [hconfig]
    decide
  have hrun : Exec (Dispatch.dispatch (loggedInTo {}).2.1.setting session "PASV".toList)
      (pasvTo {} session).1 (pasvTo {} session).2.1 := exec_trace _ _ _
  rw [← hevents] at hfollows
  obtain ⟨port, hport, hannounces⟩ := havailable.announced 0 session hsession hlogin hidle
    session.input "PASV".toList hfind _ _ hrun hfollows
  have hzero : port = 50000 := by
    refine UInt16.toNat_inj.1 (hport.toNat_eq.trans ?_)
    rw [hconfig]
    rfl
  rw [hzero] at hannounces
  exact ⟨history, hreachable, hapart, hfaithful, havailable, session, hsession, hannounces⟩

/-- The control port is the passive port of the first slot. -/
def sharedPort : Config :=
  { controlPort := 50000 }

/-- The configuration is valid, but the first client that logs in cannot have a listener. -/
theorem sharedPort_unavailable :
    sharedPort.fault? = .ok none ∧ ∃ history, Reachable history (loggedInTo sharedPort).2.1 ∧
      binding.Follows [] (eventsOf history) ∧ ∃ session events text session',
        (loggedInTo sharedPort).2.1.sessions.get? 0 = some session ∧
        session.isLoggedIn = true ∧ session.isTransferring = false ∧
        Exec (Dispatch.dispatch (loggedInTo sharedPort).2.1.setting session "PASV".toList) events
          (.failure text, session') ∧
        binding.Follows (heldAfter (eventsOf history)) events ∧
        (repliesIn events).map (fun reply => reply.2.code) = [425] ∧
        session'.passiveListener = none := by
  obtain ⟨history, hreachable, hevents⟩ := exists_loggedInTo sharedPort
  have hfaithful : binding.Follows [] (loggedInTo sharedPort).1 := by decide +kernel
  obtain ⟨session, hsession⟩ :
      ∃ session, (loggedInTo sharedPort).2.1.sessions.get? 0 = some session :=
    Option.isSome_iff_exists.1 (by decide +kernel)
  have hrun : ∀ session ∈ (loggedInTo sharedPort).2.1.sessions.get? 0,
      session.isLoggedIn = true ∧ session.isTransferring = false ∧
        (pasvTo sharedPort session).2.1.1 = .failure "Cannot open passive connection.".toList ∧
        binding.Follows (heldAfter (loggedInTo sharedPort).1) (pasvTo sharedPort session).1 ∧
        (repliesIn (pasvTo sharedPort session).1).map (fun reply => reply.2.code) = [425] ∧
        (pasvTo sharedPort session).2.1.2.passiveListener = none := by
    decide +kernel
  obtain ⟨hlogin, hidle, hstatus, hfollows, hcodes, hlistener⟩ := hrun session hsession
  refine ⟨by decide, history, hreachable, hevents ▸ hfaithful, session,
    (pasvTo sharedPort session).1, "Cannot open passive connection.".toList,
    (pasvTo sharedPort session).2.1.2, hsession, hlogin, hidle, ?_, hevents ▸ hfollows, hcodes,
    hlistener⟩
  rw [← hstatus]
  exact exec_trace _ _ _

end Ftp
