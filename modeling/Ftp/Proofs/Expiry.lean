import Ftp.Proofs.Activity
import Ftp.Proofs.Separation
import Ftp.Proofs.Workload

/-!
# Expiry

At the end of a pass the clock is read, and each session that has not been active for the time that
the configuration allows is told so and closed. Which sessions these are depends on nothing but
their own past: on a clock that stands still during a pass no session is among them whose transfer
takes a step in the pass, or begins in it.

* `plays_expire`: what the sessions that have been idle for too long are told, and what is closed;
* `slot_ne_of_roused`: nobody who is active in a pass is told so at its end;
* `expires_of_reachable`: the expiry of every pass.
-/

namespace Ftp

open Program

/-- The session has been idle for as long as the configuration allows. The times stand for signed
words of 64 bits, and lie in a range in which their differences are such words too. -/
def Session.isIdle (config : Config) (now : Int) (session : Session) : Bool :=
  config.idleLimit ≤ now - session.lastCommand

/-! ## The sessions of a table -/

namespace SessionTable

/-- The sessions that have been idle for too long, in the order of their slots. -/
def idle (config : Config) (now : Int) (table : SessionTable) : List Session :=
  table.sessions.filter (Session.isIdle config now)

section Tables

variable {config : Config} {now : Int} {table : SessionTable} {session : Session} {slot : Nat}

theorem Placed.mem_idle (placed : table.Placed) :
    session ∈ table.idle config now ↔
      table.get? session.slot = some session ∧ session.isIdle config now = true := by
  rw [idle, List.mem_filter, mem_sessions_iff]
  constructor
  · rintro ⟨⟨slot, get⟩, hidle⟩
    rw [← placed slot session get] at get
    exact ⟨get, hidle⟩
  · rintro ⟨get, hidle⟩
    exact ⟨⟨_, get⟩, hidle⟩

theorem Placed.nodup_idle (placed : table.Placed) :
    ((table.idle config now).map Session.slot).Nodup :=
  placed.nodup_occupied.sublist (List.filter_sublist.map _)

/-- Frees the slots. -/
def eraseAll (slots : List Nat) (table : SessionTable) : SessionTable :=
  slots.foldl erase table

theorem get?_eraseAll (slots : List Nat) (table : SessionTable) (slot : Nat) :
    (eraseAll slots table).get? slot = if slot ∈ slots then none else table.get? slot := by
  induction slots generalizing table with
  | nil => rfl
  | cons first slots ih =>
    rw [eraseAll, List.foldl_cons, ← eraseAll, ih, get?_erase]
    by_cases hmem : slot ∈ slots <;> by_cases hslot : slot = first <;> simp [hmem, hslot]

/-- Once the slots of the idle sessions are freed, the other sessions are left. -/
theorem Placed.get?_eraseAll_idle (placed : table.Placed) (slot : Nat) :
    (eraseAll ((table.idle config now).map Session.slot) table).get? slot =
      (table.get? slot).filter fun session => !session.isIdle config now := by
  rw [get?_eraseAll]
  cases hget : table.get? slot with
  | none => simp
  | some session =>
    have hslot := placed slot session hget
    have hiff : slot ∈ (table.idle config now).map Session.slot ↔
        session.isIdle config now = true := by
      constructor
      · intro hmem
        obtain ⟨other, hother, heq⟩ := List.mem_map.1 hmem
        obtain ⟨get, hidle⟩ := placed.mem_idle.1 hother
        rw [heq, hget] at get
        rwa [Option.some.inj get]
      · intro hidle
        exact List.mem_map.2 ⟨session, placed.mem_idle.2 ⟨by rw [hslot, hget], hidle⟩, hslot⟩
    cases hidle : session.isIdle config now <;> simp [hiff, hidle, Option.filter]

end Tables

end SessionTable

/-! ## Taking leave -/

section Leave

variable {session session' : Session} {server : Server} {opened : Multiset Handle} {slot : Nat}

/-- One after the other the sessions are told that their time is up, and lose what they own. -/
theorem plays_expire {table : SessionTable} {sessions : List Session}
    (get : ∀ session ∈ sessions, table.get? session.slot = some session)
    (nodup : (sessions.map Session.slot).Nodup) :
    (Server.expire (sessions.map Session.slot) table).Plays (sessions.flatMap Session.farewell)
      (table.eraseAll (sessions.map Session.slot)) := by
  induction sessions generalizing table with
  | nil => exact plays_done table
  | cons session sessions ih =>
    obtain ⟨hget, hrest⟩ := List.forall_mem_cons.1 get
    obtain ⟨hnotMem, hnodup⟩ := List.nodup_cons.1 nodup
    have hkept : ∀ other ∈ sessions,
        (table.erase session.slot).get? other.slot = some other := by
      intro other hother
      have hne : session.slot ≠ other.slot := fun heq =>
        hnotMem (heq ▸ List.mem_map_of_mem hother)
      rw [SessionTable.get?_erase_of_ne table hne, hrest other hother]
    simp only [List.map_cons, Server.expire, hget, List.flatMap_cons, Session.farewell,
      List.cons_append]
    exact (plays_say session 421 "Timeout.").bind ((plays_closeSlot hget).bind (ih hkept hnodup))

theorem repliesIn_farewells (sessions : List Session) :
    repliesIn (sessions.flatMap Session.farewell) =
      sessions.map fun session => (session.control, .line 421 "Timeout.") := by
  induction sessions with
  | nil => rfl
  | cons session sessions ih =>
    rw [List.flatMap_cons, repliesIn_append, repliesIn_farewell, ih]
    rfl

/-- Where nobody has been told before that its time is up, each of the sessions is told once. -/
theorem filter_repliesIn_farewells {work : List Event} (now : Int) (sessions : List Session)
    (quiet : ∀ told ∈ repliesIn work, told.2.code ≠ 421) :
    (repliesIn (work ++ ⟨.unixTime, now⟩ :: sessions.flatMap Session.farewell)).filter
        (fun told => told.2.code = 421) =
      sessions.map fun session => (session.control, .line 421 "Timeout.") := by
  have hbefore : (repliesIn work).filter (fun told => told.2.code = 421) = [] :=
    List.filter_eq_nil_iff.2 fun told hmem => by simpa using quiet told hmem
  rw [repliesIn_append, List.filter_append, hbefore, List.nil_append, repliesIn_cons,
    repliesIn_farewells]
  exact List.filter_eq_self.2 (by simp [Request.reply?, Reply.code])

/-- The event works on nothing but these handles, and hands out none. -/
structure Event.KeepsTo (own : Multiset Handle) (event : Event) : Prop where
  uses : ∀ handle ∈ event.request.uses, handle ∈ own
  gives : event.request.gives event.answer = 0

theorem keepsTo_released : ∀ event ∈ session.transmission.released,
    event.KeepsTo session.handles := by
  intro event hmem
  cases htransmission : session.transmission with
  | idle => simp [htransmission, Transmission.released] at hmem
  | retrieving | storing =>
    simp only [htransmission, Transmission.released, List.mem_cons, List.not_mem_nil,
      or_false] at hmem
    rcases hmem with rfl | rfl <;>
      exact ⟨by simp [Request.uses, Session.handles, Transmission.handles, htransmission], rfl⟩

theorem keepsTo_passiveClosed : ∀ event ∈ session.passiveClosed,
    event.KeepsTo session.handles := by
  intro event hmem
  simp only [Session.passiveClosed, List.mem_append, Option.mem_toList,
    Option.map_eq_some_iff] at hmem
  rcases hmem with ⟨listener, hlistener, rfl⟩ | ⟨port, -, rfl⟩
  · exact ⟨by simp [Request.uses, Session.handles, listenerHandles, hlistener], rfl⟩
  · exact ⟨by simp [Request.uses], rfl⟩

/-- In its farewell nothing is done but with what the session owns. -/
theorem keepsTo_farewell : ∀ event ∈ session.farewell, event.KeepsTo session.handles := by
  have hcontrol : Handle.socket session.control ∈ session.handles := by
    simp [Session.handles]
  intro event hmem
  simp only [Session.farewell, Session.dismantled, List.mem_cons, List.mem_append,
    List.not_mem_nil, or_false] at hmem
  rcases hmem with rfl | hmem | hmem | rfl
  · exact ⟨by simpa [said, Request.uses] using hcontrol, rfl⟩
  · exact keepsTo_released event hmem
  · exact keepsTo_passiveClosed event hmem
  · exact ⟨by simpa [Request.uses] using hcontrol, rfl⟩

/-- The farewell of one session spares what another one owns. -/
theorem spares_farewell (owned : server.Owned opened)
    (get : server.sessions.get? slot = some session)
    (get' : server.sessions.get? session'.slot = some session') (hne : session'.slot ≠ slot) :
    ∀ event ∈ session'.farewell, ∀ handle ∈ session.handles, event.Spares handle := by
  intro event hmem handle hhandle
  obtain ⟨huses, hgives⟩ := keepsTo_farewell event hmem
  refine ⟨fun hused => ?_, by simp [hgives]⟩
  exact Multiset.disjoint_left.1 (owned.disjoint_handles get get' hne) (huses handle hused) hhandle

/-- A session that stays keeps what it owns. -/
theorem Server.Owned.spares_idle (owned : server.Owned opened) (placed : server.sessions.Placed)
    {config : Config} {now : Int} (get : server.sessions.get? slot = some session)
    (awake : session.isIdle config now = false) :
    ∀ event ∈ (server.sessions.idle config now).flatMap Session.farewell,
      ∀ handle ∈ session.handles, event.Spares handle := by
  intro event hmem
  obtain ⟨idle, hidle, hevent⟩ := List.mem_flatMap.1 hmem
  obtain ⟨get', hlong⟩ := placed.mem_idle.1 hidle
  have hne : idle.slot ≠ slot := by
    rintro rfl
    rw [get] at get'
    rw [Option.some.inj get', hlong] at awake
    cases awake
  exact spares_farewell owned get get' hne event hevent

end Leave

/-! ## Passes -/

section Passes

variable {server served : Server} {history recent : List Entry} {events : List Event} {now : Int}
  {slot : Nat} {session : Session}

/-- Where the clock shows the same time throughout, a session that is active has been idle for no
time at all. -/
theorem slot_ne_of_roused (h : Reachable (recent ++ history) served) {config : Config}
    (valid : config.fault? = .ok none)
    (constant : ∀ event ∈ eventsOf recent, ∀ time, event.time? = some time → time = now)
    (roused : ∃ entry ∈ recent, entry.rouses slot = true) :
    ∀ idle ∈ served.sessions.idle config now, idle.slot ≠ slot := by
  rintro idle hidle rfl
  obtain ⟨get, hlong⟩ := h.placed.mem_idle.1 hidle
  obtain ⟨event, hmem, htime⟩ := exists_of_roused (h.lastActive?_eq get) roused
  have hlast : idle.lastCommand = now := constant event hmem _ htime
  have hlimit : 0 < config.idleLimit := Config.idleLimit_pos valid
  have hlong : config.idleLimit ≤ now - idle.lastCommand := of_decide_eq_true hlong
  omega

/-- A session whose transfer is going on as a pass begins is active in it. -/
theorem Rounds.exists_rouses (h : Rounds server.sessions recent) (placed : server.sessions.Placed)
    (get : server.sessions.get? slot = some session)
    (htransferring : session.isTransferring = true) :
    ∃ entry ∈ recent, entry.rouses slot = true := by
  obtain ⟨-, hall, -⟩ := h
  obtain ⟨entry, hmem, hdeed, hsome⟩ :=
    hall slot (placed.mem_transferring.2 ⟨session, get, htransferring⟩)
  obtain ⟨stepping, hstepping⟩ := Option.isSome_iff_exists.1 hsome
  exact ⟨entry, by simp [hmem], by simp [Entry.rouses, hstepping, hdeed]⟩

/-- Only an expiry tells a client that its time is up. -/
theorem Server.Tells.code_ne_timeout {deed : Deed} {reply : Reply} (h : server.Tells deed reply)
    (hdeed : ∀ slot, deed ≠ .expire slot) : reply.code ≠ 421 := by
  cases h with
  | phrase h => exact code_ne_of_mem_phrases h (by decide)
  | timeout hexpire => exact absurd hexpire (hdeed _)
  | line _ _ _ answers =>
    cases answers with
    | phrase h => exact code_ne_of_mem_phrases h (by decide)
    | echo => simp [Reply.code]
    | command _ _ voiced =>
      cases voiced with
      | phrase h => exact code_ne_of_mem_phrases h (by decide)
      | _ => simp [Reply.code]

theorem Rounds.code_ne_timeout (h : Rounds server.sessions recent)
    (hserved : Reachable (recent ++ history) served) :
    ∀ told ∈ repliesIn (eventsOf recent), told.2.code ≠ 421 := by
  rintro ⟨control, reply⟩ hmem
  obtain ⟨event, hevent, hreply⟩ := List.mem_filterMap.1 hmem
  obtain ⟨newer, entry, older, rfl, hentry⟩ := exists_entry_of_mem hevent
  rw [List.append_assoc, List.cons_append] at hserved
  exact (hserved.tells event hentry control reply hreply).code_ne_timeout
    fun slot => h.deed_ne slot entry (by simp)

/-- A line upon which a file is opened is heeded. -/
theorem heeds_of_opened {setting : Setting} {result : Status × Session}
    (run : Exec (Dispatch.processInput setting session) events result)
    (hopened : 0 < openedIn events) : session.heeds setting = true := by
  unfold Session.heeds
  cases exec_processInput run with
  | overlong | nothing => simp [openedIn, Event.opened?, said] at hopened
  | line next hline =>
    simp only [next]
    cases exec_dispatch hline with
    | notLoggedIn | denied | ignored => simp [openedIn, Event.opened?, said] at hopened
    | unknown find => simp [find]
    | run find verdict => simp [find, verdict]

/-- So is a session whose transfer begins. -/
theorem Leads.rouses_of_opened {entry : Entry} (h : Leads server recent served)
    (placed : server.sessions.Placed) (hmem : entry ∈ recent) (hdeed : entry.deed = .serve slot)
    (hopened : 0 < openedIn entry.events) : entry.rouses slot = true := by
  obtain ⟨newer, older, rfl⟩ := List.append_of_mem hmem
  obtain ⟨hleads, after, run⟩ := h.of_append_cons
  rw [hdeed] at run
  cases hget : entry.before.sessions.get? slot with
  | none =>
    rw [(eq_of_perform_vacant rfl hget run).1] at hopened
    cases hopened
  | some session =>
    obtain ⟨status, session', hserve, -⟩ := exec_serve (hleads.placed placed) hget run
    simp [Entry.rouses, hget, hdeed, heeds_of_opened hserve hopened]

/-- What the end of a pass means to the sessions. The deeds before it, up to the last of the turns,
lead to the server `served`; then the clock shows `now`, and the pass ends with `server'`. -/
structure Expires (history : List Entry) (server : Server) (events : List Event)
    (recent : List Entry) (served : Server) (now : Int) (server' : Server) : Prop where
  /-- These deeds are the steps of the transfers, the admission, and the turns of the sessions. -/
  leads : Leads server recent served
  rounds : Rounds server.sessions recent
  /-- A session is idle for too long once it has been so for the time that the configuration says,
  as far as times can be told apart in signed words. -/
  mem_idle : ∀ slot session, served.sessions.get? slot = some session →
    now - session.lastCommand < Int64.maxValue.toInt →
    (session ∈ served.sessions.idle server.config now ↔
      server.config.sessionTimeout.toNat ≤ now - session.lastCommand)
  /-- The clock is read, and each of the sessions that have been idle for too long is told so, once,
  and loses what it owns. -/
  events_eq : events = eventsOf recent ++ ⟨.unixTime, now⟩ ::
    (served.sessions.idle server.config now).flatMap Session.farewell
  /-- Nobody else is told so in the pass, and nobody twice. -/
  told : (repliesIn events).filter (fun told => told.2.code = 421) =
    (served.sessions.idle server.config now).map fun session =>
      (session.control, .line 421 "Timeout.")
  /-- Their slots are freed, and the other sessions are as they were. -/
  get?_eq : ∀ slot, server'.sessions.get? slot =
    (served.sessions.get? slot).filter fun session => !session.isIdle server.config now
  rest_eq : server' = { served with sessions := server'.sessions }
  /-- On a platform that hands out no handle that is open, what they own is left alone. -/
  spares : Fresh (recent ++ history) → ∀ slot session,
    served.sessions.get? slot = some session → session.isIdle server.config now = false →
    ∀ event ∈ (served.sessions.idle server.config now).flatMap Session.farewell,
      ∀ handle ∈ session.handles, event.Spares handle
  /-- How long a session has been idle is counted from when it was active for the last time, however
  far back. -/
  lastActive : ∀ slot session, served.sessions.get? slot = some session →
    lastActive? slot (recent ++ history) = some session.lastCommand
  /-- Nothing that is done for other sessions has to do with it. -/
  own : ∀ slot session, served.sessions.get? slot = some session →
    lastActive? slot ((recent ++ history).filter (Entry.concerns slot)) = some session.lastCommand
  /-- No session is closed whose transfer was going on as the pass began. -/
  transferring : ∀ slot session, server.sessions.get? slot = some session →
    session.isTransferring = true → ∀ idle ∈ served.sessions.idle server.config now,
      idle.slot ≠ slot
  /-- Nor is one whose transfer has begun in the pass. -/
  started : ∀ slot, ∀ entry ∈ recent, entry.deed = .serve slot → 0 < openedIn entry.events →
    ∀ idle ∈ served.sessions.idle server.config now, idle.slot ≠ slot

/-- In every pass of a server with a valid configuration, during which the clock stands still. -/
theorem expires_of_reachable (h : Reachable history server)
    (valid : server.config.fault? = .ok none)
    {result : Except ServerError Unit × Server} (run : Exec server.runOnce events result)
    (constant : ∀ event ∈ events, ∀ time, event.time? = some time → time = now) :
    (result = (.error .notStarted, server) ∧ events = []) ∨
      ∃ recent served, Expires history server events recent served now result.2 := by
  cases hlistener : server.listener with
  | none => exact .inl (exec_runOnce_of_none hlistener run).symm
  | some listener =>
    obtain ⟨work, recent, served, time, departed, table, ⟨hleads, rfl⟩, hrounds, hconfig, hexpire,
      rfl, rfl, -⟩ := exec_runOnce_rounds h.placed hlistener run
    obtain rfl : time = now := constant ⟨.unixTime, time⟩ (by simp) time rfl
    have hserved := h.append hleads
    have placed := hserved.placed
    obtain ⟨rfl, rfl⟩ := (plays_expire (fun session hmem => (placed.mem_idle.1 hmem).1)
      placed.nodup_idle).eq_of_exec hexpire
    have hconstant : ∀ event ∈ eventsOf recent, ∀ now, event.time? = some now → now = time :=
      fun event hmem => constant event (List.mem_append_left _ hmem)
    refine .inr ⟨recent, served, ?_⟩
    exact
      { leads := hleads
        rounds := hrounds
        mem_idle slot session get hfits := by
          obtain rfl := placed slot session get
          rw [placed.mem_idle, and_iff_right get, Session.isIdle, decide_eq_true_eq,
            Config.idleLimit_le_iff hfits]
        events_eq := rfl
        told := filter_repliesIn_farewells time _ (hrounds.code_ne_timeout hserved)
        get?_eq := placed.get?_eraseAll_idle
        rest_eq := rfl
        spares fresh slot session get := (hserved.owned fresh).spares_idle placed get
        lastActive slot session get := hserved.lastActive?_eq get
        own slot session get := by rw [lastActive?_filter, hserved.lastActive?_eq get]
        transferring slot session get htransferring :=
          slot_ne_of_roused hserved valid hconstant
            (hrounds.exists_rouses h.placed get htransferring)
        started slot entry hmem hdeed hopened :=
          slot_ne_of_roused hserved valid hconstant
            ⟨entry, hmem, hleads.rouses_of_opened h.placed hmem hdeed hopened⟩ }

/-- A server that allows five minutes of idleness, after its client has said `NOOP`. -/
def firstCall : List Event × Server × Simulation.World :=
  passes { sessionTimeout := 300 } { name := "ada", password := [], root := "/", rights := .all } {}
    "NOOP\r\n".toList false 2

/-- The pass in which another client is accepted, seven minutes later. -/
def secondCall : List Event × (Except ServerError Unit × Server) × Simulation.World :=
  firstCall.2.1.runOnce.trace Simulation.World.answer
    ({ firstCall.2.2 with clock := 420 }.dialled firstCall.2.1.config.controlPort [] false)

/-- The first client is told that its time is up, and the second one is left. -/
theorem expires_of_reachable_secondCall :
    firstCall.2.1.config.fault? = .ok none ∧
      Exec firstCall.2.1.runOnce secondCall.1 secondCall.2.1 ∧
      (∀ event ∈ secondCall.1, ∀ time, event.time? = some time → time = 420) ∧
      firstCall.2.1.sessions.sessions.map Session.lastCommand = [0] ∧
      secondCall.2.1.2.sessions.occupied = [1] ∧
      ∃ history recent served, Reachable history firstCall.2.1 ∧
        Expires history firstCall.2.1 secondCall.1 recent served 420 secondCall.2.1.2 := by
  obtain ⟨history, hreachable⟩ : ∃ history, Reachable history firstCall.2.1 := by
    rw [firstCall]
    obtain ⟨recent, hsettled, -⟩ := exists_settled_passes ..
    exact ⟨_, hsettled.reachable⟩
  have hvalid : firstCall.2.1.config.fault? = .ok none := by decide +kernel
  have hrun : Exec firstCall.2.1.runOnce secondCall.1 secondCall.2.1 := by
    rw [secondCall]
    exact exec_trace Simulation.World.answer _ _
  have htimes : ∀ time ∈ secondCall.1.filterMap Event.time?, time = 420 := by decide +kernel
  have hconstant : ∀ event ∈ secondCall.1, ∀ time, event.time? = some time → time = 420 :=
    fun event hmem time htime => htimes time (List.mem_filterMap.2 ⟨event, hmem, htime⟩)
  have hsome : secondCall.1 ≠ [] := by
    have hlength : secondCall.1.length ≠ 0 := by decide +kernel
    exact List.ne_nil_of_length_pos (Nat.pos_of_ne_zero hlength)
  obtain ⟨recent, served, hexpires⟩ :=
    (expires_of_reachable hreachable hvalid hrun hconstant).resolve_left fun h => hsome h.2
  exact ⟨hvalid, hrun, hconstant, by decide +kernel, by decide +kernel, history, recent, served,
    hreachable, hexpires⟩

end Passes

end Ftp
