import Ftp.Proofs.Expiry

/-!
# Keeping a session alive

A line of its client keeps a session alive if it is heeded: the time at which it has been served is
noted, and for as long as the configuration allows from then on, no pass closes the session for
being idle. A line that is refused, or not heard because of a transfer, does not count, and a client
that sends nothing else is told that its time is up.

* `exec_dispatch_time`: what a line makes of the note of the time;
* `le_lastCommand_of_activeSince`: an activity is noted until the next one;
* `alive_of_reachable`: which sessions a pass leaves alone;
* `alive_of_reachable_refused`: a client that is told its time is up while it goes on sending lines.
-/

namespace Ftp

open Program

/-! ## Lines -/

/-- The line names no command, so that the client is told so, or it names one that may run. -/
def Dispatch.heeds (setting : Setting) (session : Session) (raw : Text) : Bool :=
  match Command.find? (Command.upperVerb raw) setting.config.extensions with
  | none => true
  | some command => verdict setting session command = .run

/-- The next line of a session counts as what it is when it is served. -/
theorem Session.heeds_of_nextLine? {setting : Setting} {session : Session} {raw : Text}
    {input : LineBuffer} (next : session.input.nextLine? = some (raw, input)) :
    session.heeds setting = Dispatch.heeds setting { session with input } raw := by
  unfold Session.heeds
  rw [next]
  rfl

/-- What a line makes of the note of the time. If it is heeded, the clock is looked at last of all,
and what it shows is noted. Otherwise the clock is not looked at, and the session is left as it
is. -/
def Dispatch.Notes (setting : Setting) (session : Session) (raw : Text) (events : List Event)
    (session' : Session) : Prop :=
  if heeds setting session raw then
    ∃ before now, events = before ++ [⟨.unixTime, now⟩] ∧ session'.lastCommand = now
  else session' = session ∧ ∀ event ∈ events, event.time? = none

theorem exec_dispatch_time {setting : Setting} {session : Session} {raw : Text}
    {events : List Event} {result : Status × Session}
    (run : Exec (Dispatch.dispatch setting session raw) events result) :
    Dispatch.Notes setting session raw events result.2 := by
  unfold Dispatch.Notes Dispatch.heeds
  cases exec_dispatch run with
  | unknown find now =>
    simp only [find, if_true]
    exact ⟨[_], now, rfl, rfl⟩
  | run find verdict _ now =>
    simp only [find, verdict, decide_true, if_true]
    exact ⟨_, now, rfl, rfl⟩
  | notLoggedIn find verdict | denied find verdict | ignored find verdict =>
    simp [find, verdict, said, Event.time?]

/-! ## Activities -/

/-- The session of the slot has been active at the time, and the clock has not been set back
since. -/
def ActiveSince (slot : Nat) (past : List Entry) (time : Int) : Prop :=
  ∃ newer entry older, past = newer ++ entry :: older ∧ entry.rouses slot = true ∧
    latestTime? entry.events = some time ∧
    ∀ event ∈ eventsOf newer, ∀ later, event.time? = some later → time ≤ later

section Passes

variable {server served : Server} {history recent : List Entry} {events : List Event}
  {slot : Nat} {session : Session} {time : Int}

theorem le_lastCommand_of_activeSince (h : Reachable history server)
    (get : server.sessions.get? slot = some session) (active : ActiveSince slot history time) :
    time ≤ session.lastCommand := by
  obtain ⟨newer, entry, older, rfl, hrouses, htime, hlater⟩ := active
  have hlast := h.lastActive?_eq get
  by_cases roused : ∃ other ∈ newer, other.rouses slot = true
  · obtain ⟨event, hmem, hevent⟩ := exists_of_roused hlast roused
    exact hlater event hmem _ hevent
  · have hnone : newer.find? (Entry.rouses slot) = none :=
      List.find?_eq_none.2 fun other hmem hother => roused ⟨other, hmem, hother⟩
    rw [lastActive?, List.find?_append, hnone, Option.none_or, List.find?_cons_of_pos hrouses,
      Option.bind_some, htime] at hlast
    exact Int.le_of_eq (Option.some.inj hlast)

/-- Two sessions do not share a control connection. -/
theorem Server.Owned.control_ne {opened : Multiset Handle} {session' : Session} {slot' : Nat}
    (owned : server.Owned opened) (get : server.sessions.get? slot = some session)
    (get' : server.sessions.get? slot' = some session') (hne : slot' ≠ slot) :
    session'.control ≠ session.control := by
  intro heq
  have hmem : Handle.socket session'.control ∈ session'.handles := by simp [Session.handles]
  have hmem' : Handle.socket session'.control ∈ session.handles := by simp [Session.handles, heq]
  exact Multiset.disjoint_left.1 (owned.disjoint_handles get get' hne) hmem hmem'

/-- What the end of a pass means to a session that has been active. The deeds before it lead to the
server `served`; then the clock shows `now`, and the pass ends with `server'`. -/
structure Alive (history : List Entry) (server : Server) (events : List Event)
    (recent : List Entry) (served : Server) (now : Int) (server' : Server) : Prop where
  leads : Leads server recent served
  events_eq : ∃ departed, events = eventsOf recent ++ ⟨.unixTime, now⟩ :: departed
  /-- If that was less than the time ago that the configuration allows, the session stays. -/
  kept : ∀ slot session time, served.sessions.get? slot = some session →
    ActiveSince slot (recent ++ history) time → now - time < server.config.idleLimit →
    server'.sessions.get? slot = some session
  /-- And on a platform that hands out no handle that is open, its client is not told that its time
  is up. -/
  untold : Fresh (recent ++ history) → ∀ slot session time,
    served.sessions.get? slot = some session → ActiveSince slot (recent ++ history) time →
    now - time < server.config.idleLimit →
    ∀ told ∈ repliesIn events, told.1 = session.control → told.2.code ≠ 421

theorem exec_runOnce_alive (h : Reachable history server)
    {result : Except ServerError Unit × Server} (run : Exec server.runOnce events result) :
    (result = (.error .notStarted, server) ∧ events = []) ∨
      ∃ recent served now, Alive history server events recent served now result.2 := by
  cases hlistener : server.listener with
  | none => exact .inl (exec_runOnce_of_none hlistener run).symm
  | some listener =>
    obtain ⟨work, recent, served, now, departed, table, ⟨hleads, rfl⟩, hrounds, hconfig, hexpire,
      rfl, rfl, -⟩ := exec_runOnce_rounds h.placed hlistener run
    have hserved := h.append hleads
    have placed := hserved.placed
    obtain ⟨rfl, rfl⟩ := (plays_expire (fun session hmem => (placed.mem_idle.1 hmem).1)
      placed.nodup_idle).eq_of_exec hexpire
    have hawake : ∀ slot session time, served.sessions.get? slot = some session →
        ActiveSince slot (recent ++ history) time → now - time < server.config.idleLimit →
        session.isIdle server.config now = false := by
      intro slot session time get active hshort
      have hle := le_lastCommand_of_activeSince hserved get active
      exact decide_eq_false (by omega)
    refine .inr ⟨recent, served, now, hleads, ⟨_, rfl⟩, ?_, ?_⟩
    · intro slot session time get active hshort
      simp [placed.get?_eraseAll_idle, get, hawake slot session time get active hshort]
    · rintro fresh slot session time get active hshort told hmem hcontrol hcode
      have htold : told ∈ (repliesIn (eventsOf recent ++ ⟨.unixTime, now⟩ ::
          (served.sessions.idle server.config now).flatMap Session.farewell)).filter
            (fun told => told.2.code = 421) :=
        List.mem_filter.2 ⟨hmem, decide_eq_true hcode⟩
      rw [filter_repliesIn_farewells now _ (hrounds.code_ne_timeout hserved)] at htold
      obtain ⟨idle, hidle, rfl⟩ := List.mem_map.1 htold
      obtain ⟨get', hlong⟩ := placed.mem_idle.1 hidle
      by_cases hslot : idle.slot = slot
      · rw [hslot, get] at get'
        rw [← Option.some.inj get', hawake slot session time get active hshort] at hlong
        cases hlong
      · exact (hserved.owned fresh).control_ne get get' hslot hcontrol

/-- Over every history, a line that is heeded is noted. A session is active with such a line, and is
kept alive by it for as long as the configuration allows. -/
theorem alive_of_reachable (h : Reachable history server) :
    (∀ setting session raw events result,
      Exec (Dispatch.dispatch setting session raw) events result →
      Dispatch.Notes setting session raw events result.2) ∧
    (∀ setting (session : Session) raw input, session.input.nextLine? = some (raw, input) →
      session.heeds setting = Dispatch.heeds setting { session with input } raw) ∧
    ∀ events result, Exec server.runOnce events result →
      (result = (.error .notStarted, server) ∧ events = []) ∨
        ∃ recent served now, Alive history server events recent served now result.2 :=
  ⟨fun _ _ _ _ _ => exec_dispatch_time, fun _ _ _ _ => Session.heeds_of_nextLine?,
    fun _ _ => exec_runOnce_alive h⟩

/-! ## Two clients -/

/-- The client that has dialled in sends another text, at the time. -/
def Simulation.World.resumed (world : World) (clock : Int) (text : Text) : World :=
  let network? := world.network.change? "client".toList { data := Utf8.encode text }
  { world with clock, network := network?.getD world.network }

/-- The pass in which a client sends the text, after more than three of its five minutes. -/
def secondLine (text : Text) : List Event × (Except ServerError Unit × Server) × Simulation.World :=
  firstCall.2.1.runOnce.trace Simulation.World.answer (firstCall.2.2.resumed 200 text)

/-- The pass in which it sends the text again, as long after that. -/
def thirdLine (text : Text) : List Event × (Except ServerError Unit × Server) × Simulation.World :=
  (secondLine text).2.1.2.runOnce.trace Simulation.World.answer
    ((secondLine text).2.2.resumed 400 text)

theorem exists_reachable_firstCall : ∃ history, Reachable history firstCall.2.1 := by
  rw [firstCall]
  obtain ⟨recent, hsettled, -⟩ := exists_settled_passes ..
  exact ⟨_, hsettled.reachable⟩

theorem exec_secondLine (text : Text) :
    Exec firstCall.2.1.runOnce (secondLine text).1 (secondLine text).2.1 := by
  rw [secondLine]
  exact exec_trace Simulation.World.answer _ _

theorem exec_thirdLine (text : Text) :
    Exec (secondLine text).2.1.2.runOnce (thirdLine text).1 (thirdLine text).2.1 := by
  rw [thirdLine]
  exact exec_trace Simulation.World.answer _ _

/-- Words that name no command keep a session alive. -/
theorem alive_of_reachable_unknown :
    (secondLine "HELLO\r\n".toList).2.1.2.sessions.sessions.map Session.lastCommand = [200] ∧
      (thirdLine "HELLO\r\n".toList).2.1.2.sessions.sessions.map Session.lastCommand = [400] ∧
      ∃ history recent served now, Reachable history firstCall.2.1 ∧
        Alive history firstCall.2.1 (secondLine "HELLO\r\n".toList).1 recent served now
          (secondLine "HELLO\r\n".toList).2.1.2 := by
  obtain ⟨history, hreachable⟩ := exists_reachable_firstCall
  have hsome : (secondLine "HELLO\r\n".toList).1 ≠ [] := by
    have hlength : (secondLine "HELLO\r\n".toList).1.length ≠ 0 := by decide +kernel
    exact List.ne_nil_of_length_pos (Nat.pos_of_ne_zero hlength)
  obtain ⟨recent, served, now, halive⟩ :=
    ((alive_of_reachable hreachable).2.2 _ _ (exec_secondLine _)).resolve_left fun h => hsome h.2
  exact ⟨by decide +kernel, by decide +kernel, history, recent, served, now, hreachable, halive⟩

/-- Commands that need a login do not, where the client has not logged in: it says `NOOP` again and
again, with less than five minutes in between, and is told that its time is up. -/
theorem alive_of_reachable_refused :
    (∃ history, Reachable history firstCall.2.1) ∧ firstCall.2.1.config.fault? = .ok none ∧
      firstCall.2.1.config.sessionTimeout = 300 ∧
      Exec firstCall.2.1.runOnce (secondLine "NOOP\r\n".toList).1
        (secondLine "NOOP\r\n".toList).2.1 ∧
      (secondLine "NOOP\r\n".toList).1.filterMap Event.time? = [200] ∧
      (repliesIn (secondLine "NOOP\r\n".toList).1).map (fun told => told.2.code) = [530] ∧
      (secondLine "NOOP\r\n".toList).2.1.2.sessions.sessions.map Session.lastCommand = [0] ∧
      Exec (secondLine "NOOP\r\n".toList).2.1.2.runOnce (thirdLine "NOOP\r\n".toList).1
        (thirdLine "NOOP\r\n".toList).2.1 ∧
      (thirdLine "NOOP\r\n".toList).1.filterMap Event.time? = [400] ∧
      (repliesIn (thirdLine "NOOP\r\n".toList).1).map (fun told => told.2.code) = [530, 421] ∧
      (thirdLine "NOOP\r\n".toList).2.1.2.sessions.occupied = [] :=
  ⟨exists_reachable_firstCall, by decide +kernel, by decide +kernel, exec_secondLine _,
    by decide +kernel, by decide +kernel, by decide +kernel, exec_thirdLine _, by decide +kernel,
    by decide +kernel, by decide +kernel⟩

end Passes

end Ftp
