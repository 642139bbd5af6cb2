import Mathlib.Data.List.Induction
import Ftp.Proofs.Admission
import Ftp.Proofs.Conduit
import Ftp.Proofs.Login
import Ftp.Proofs.PortArgument

/-!
# The target of data connections

Where a session makes its data connections follows from how its `PORT` and `PASV` commands have been
answered, and from nothing else: `Target.replay` is a machine that hears only these answers, and it
agrees with the session after every line.

* `Target.decided_replay`: the last command that succeeded decides, but a listener does not outlast
  a `PASV` that fails;
* `exec_openPassive_run`: a `PASV`, down to the address that is announced;
* `exec_dispatch_target`: what a line makes of the target;
* `Reachable.target_eq`: the session and the machine agree, over every history.
-/

namespace Ftp

open Program

/-- What a line has come to that is about data connections. -/
inductive Setup where
  /-- The client has named one of its ports. -/
  | named (port : UInt16)
  /-- A passive listener has been opened. -/
  | listening (listener : Socket)
  /-- There is no passive listener to be had. -/
  | refused
  deriving DecidableEq, Repr

/-! ## The machine -/

namespace Target

/-- A listener that cannot be opened anew is gone, whereas a port of the client stays. -/
def hear (target : Target) : Setup → Target
  | .named port => .client port
  | .listening socket => .listener socket
  | .refused =>
    match target with
    | .listener _ => .lost
    | target => target

/-- The target after some setups. -/
def replay (setups : List Setup) : Target :=
  setups.foldl hear .unset

/-- What the setups hold that lead to a target. -/
def Decided (setups : List Setup) : Target → Prop
  | .unset => ∀ setup ∈ setups, setup = .refused
  | .client port => ∃ before after, setups = before ++ .named port :: after ∧
    ∀ later ∈ after, later = .refused
  | .listener socket => ∃ before, setups = before ++ [.listening socket]
  | .lost => ∃ before socket after, setups = before ++ .listening socket :: .refused :: after ∧
    ∀ later ∈ after, later = .refused

theorem forall_refused_concat {setups : List Setup} (h : ∀ setup ∈ setups, setup = .refused) :
    ∀ setup ∈ setups ++ [.refused], setup = .refused := by
  intro setup hmem
  rcases List.mem_append.1 hmem with hmem | hmem
  · exact h setup hmem
  · exact List.mem_singleton.1 hmem

theorem decided_hear {target : Target} {setups : List Setup} (h : target.Decided setups)
    (setup : Setup) : (target.hear setup).Decided (setups ++ [setup]) := by
  cases setup with
  | named port => exact ⟨setups, [], rfl, by simp⟩
  | listening socket => exact ⟨setups, rfl⟩
  | refused =>
    cases target with
    | unset => exact forall_refused_concat h
    | client port =>
      obtain ⟨before, after, rfl, hafter⟩ := h
      exact ⟨before, after ++ [.refused], by simp, forall_refused_concat hafter⟩
    | listener socket =>
      obtain ⟨before, rfl⟩ := h
      exact ⟨before, socket, [], by simp, by simp⟩
    | lost =>
      obtain ⟨before, socket, after, rfl, hafter⟩ := h
      exact ⟨before, socket, after ++ [.refused], by simp, forall_refused_concat hafter⟩

theorem replay_concat (setups : List Setup) (setup : Setup) :
    replay (setups ++ [setup]) = (replay setups).hear setup := by
  rw [replay, List.foldl_append]
  rfl

theorem decided_replay (setups : List Setup) : (replay setups).Decided setups := by
  induction setups using List.reverseRecOn with
  | nil => exact fun setup hmem => by cases hmem
  | append_singleton setups setup ih =>
    rw [replay_concat]
    exact decided_hear ih setup

end Target

/-! ## Opening a listener -/

/-- What happens once a passive listener has been bound, with the port that is forwarded to it and
the address that is announced: the one that the deployment names, or that of the control connection,
or the one that the server binds. -/
inductive ListenRun (config : Config) (session : Session) (port : UInt16) (listener : Socket) :
    List Event → Option UInt16 → IPv4 → Prop
  | outside (ip : IPv4) :
    ListenRun config session port listener
      [⟨.listen ⟨config.bindAddress, port⟩, .ok listener⟩,
        ⟨.externalAddress session.remote.ip, some ip⟩, ⟨.addForward port port, ()⟩]
      (some port) ip
  | own (endpoint : Endpoint) :
    ListenRun config session port listener
      [⟨.listen ⟨config.bindAddress, port⟩, .ok listener⟩,
        ⟨.externalAddress session.remote.ip, none⟩,
        ⟨.localAddress session.control, .ok endpoint⟩]
      none endpoint.ip
  | bindAddress (error : IoError) :
    ListenRun config session port listener
      [⟨.listen ⟨config.bindAddress, port⟩, .ok listener⟩,
        ⟨.externalAddress session.remote.ip, none⟩,
        ⟨.localAddress session.control, .error error⟩]
      none config.bindAddress

/-- What happens after the earlier listener has been given up. -/
inductive OpenRun (setting : Setting) (session : Session) :
    List Event → Except TransferError Endpoint × Session → Prop
  | outOfRange {error : TransferError}
    (range : DataChannel.passivePort setting.config.passivePortBase session.slot = .error error) :
    OpenRun setting session []
      (.error error, { session with passiveListener := none, forwardedPort := none })
  | refused {port : UInt16}
    (range : DataChannel.passivePort setting.config.passivePortBase session.slot = .ok port)
    (cause : IoError) :
    OpenRun setting session [⟨.listen ⟨setting.config.bindAddress, port⟩, .error cause⟩]
      (.error (.dataConnection cause),
        { session with passiveListener := none, forwardedPort := none })
  | opened {port : UInt16} {listener : Socket} {opening : List Event}
    {forwarded : Option UInt16} {ip : IPv4}
    (range : port.toNat = setting.config.passivePortBase.toNat + session.slot)
    (listening : ListenRun setting.config session port listener opening forwarded ip) :
    OpenRun setting session opening
      (.ok ⟨ip, port⟩,
        { session with passiveListener := some listener, forwardedPort := forwarded })

theorem toNat_passivePort {base port : UInt16} {slot : Nat}
    (h : DataChannel.passivePort base slot = .ok port) : port.toNat = base.toNat + slot := by
  unfold DataChannel.passivePort at h
  split at h
  · rename_i hlt
    cases h
    exact UInt16.toNat_ofNat_of_lt hlt
  · cases h

theorem exec_openPassive_run {setting : Setting} {session : Session} {events : List Event}
    {result : Except TransferError Endpoint × Session}
    (run : Exec (DataChannel.openPassive setting session) events result) :
    ∃ opening, events = session.passiveClosed ++ opening ∧
      OpenRun setting session opening result := by
  unfold DataChannel.openPassive at run
  obtain ⟨opening, rfl, hopen⟩ := (plays_closePassive session).of_bind run
  refine ⟨opening, rfl, ?_⟩
  split at hopen
  · rename_i error hport
    obtain ⟨rfl, rfl⟩ := exec_done_iff.1 hopen
    exact .outOfRange hport
  · rename_i port hport
    replace hport : DataChannel.passivePort setting.config.passivePortBase session.slot =
        .ok port := hport
    have hrange := toNat_passivePort hport
    simp only [request, ask_bind, done_bind, exec_ask_iff] at hopen
    obtain ⟨bound, _, rfl, hbound⟩ := hopen
    cases bound with
    | error cause =>
      obtain ⟨rfl, rfl⟩ := exec_done_iff.1 hbound
      exact .refused hport cause
    | ok listener =>
      obtain ⟨outside?, _, rfl, houtside⟩ := exec_ask_iff.1 hbound
      cases outside? with
      | some ip =>
        obtain ⟨_, _, rfl, hdone⟩ := exec_ask_iff.1 houtside
        obtain ⟨rfl, rfl⟩ := exec_done_iff.1 hdone
        exact .opened hrange (.outside ip)
      | none =>
        obtain ⟨_, own, _, rfl, hown, hdone⟩ := Exec.bind_iff.1 houtside
        obtain ⟨rfl, rfl⟩ := exec_done_iff.1 hdone
        simp only [DataChannel.ownAddress, request, ask_bind, done_bind, exec_ask_iff] at hown
        obtain ⟨address, _, rfl, hown⟩ := hown
        cases address with
        | ok endpoint =>
          obtain ⟨rfl, rfl⟩ := exec_done_iff.1 hown
          exact .opened hrange (.own endpoint)
        | error error =>
          obtain ⟨rfl, rfl⟩ := exec_done_iff.1 hown
          exact .opened hrange (.bindAddress error)

/-! ## Lines -/

/-- The listener that an event hands out. -/
def Event.bound? : Event → Option Socket
  | ⟨.listen _, .ok listener⟩ => some listener
  | _ => none

/-- The listener that is bound in some events. -/
def boundIn? (events : List Event) : Option Socket :=
  events.findSome? Event.bound?

/-- There is a reply with the code. -/
def hasReply (code : Nat) (events : List Event) : Bool :=
  (repliesIn events).any fun reply => reply.2.code = code

/-- What the line has come to by the replies to it, if it is about data connections. -/
def Spoken.setup? (spoken : Spoken) (events : List Event) : Option Setup :=
  let line := Command.upperVerb spoken.raw
  match Command.find? line spoken.setting.config.extensions with
  | some .port =>
    if hasReply 200 events then (Command.dataPort? (Command.argument .port line)).map .named
    else none
  | some .pasv =>
    if hasReply 227 events then (boundIn? events).map .listening
    else if hasReply 425 events then some .refused
    else none
  | _ => none

section Lines

variable {setting : Setting} {session session' : Session} {raw : Text} {events more : List Event}

theorem hasReply_append (code : Nat) :
    hasReply code (events ++ more) = (hasReply code events || hasReply code more) := by
  rw [hasReply, repliesIn_append, List.any_append]
  rfl

theorem hasReply_of_silent (h : repliesIn events = []) (code : Nat) :
    hasReply code events = false := by
  rw [hasReply, h]
  rfl

@[simp] theorem hasReply_said (code : Nat) (control : Socket) (code' : Nat) (text : Text)
    (events : List Event) :
    hasReply code (said control code' text :: events) =
      (decide (code' = code) || hasReply code events) :=
  rfl

@[simp] theorem hasReply_clock (code : Nat) (now : Int) (events : List Event) :
    hasReply code (⟨.unixTime, now⟩ :: events) = hasReply code events :=
  rfl

@[simp] theorem hasReply_nil (code : Nat) : hasReply code [] = false :=
  rfl

/-- No command but `PORT` and `PASV` has to do with data connections to come. -/
theorem Change.target_eq {argument : Text} {command : Command}
    (h : Change setting session argument command session') (hport : command ≠ .port)
    (hpasv : command ≠ .pasv) : session'.target = session.target := by
  cases h with
  | port => exact absurd rfl hport
  | pasv | noPasv => exact absurd rfl hpasv
  | _ => rfl

theorem setup?_of_ne {command : Command}
    (h : Command.find? (Command.upperVerb raw) setting.config.extensions = some command)
    (hport : command ≠ .port) (hpasv : command ≠ .pasv) :
    (session.spoken setting raw).setup? events = none := by
  simp only [Spoken.setup?, Session.spoken, h]
  split
  · rename_i hcommand
    exact absurd (Option.some.inj hcommand) hport
  · rename_i hcommand
    exact absurd (Option.some.inj hcommand) hpasv
  · rfl

theorem setup?_port
    (h : Command.find? (Command.upperVerb raw) setting.config.extensions = some .port) :
    (session.spoken setting raw).setup? events =
      if hasReply 200 events then
        (Command.dataPort? (Command.argument .port (Command.upperVerb raw))).map .named
      else none := by
  simp only [Spoken.setup?, Session.spoken, h]

theorem setup?_pasv
    (h : Command.find? (Command.upperVerb raw) setting.config.extensions = some .pasv) :
    (session.spoken setting raw).setup? events =
      if hasReply 227 events then (boundIn? events).map .listening
      else if hasReply 425 events then some .refused
      else none := by
  simp only [Spoken.setup?, Session.spoken, h]

/-- A line that is refused without regard to its argument, or is not heard, is no setup. -/
theorem setup?_of_unheard (h200 : hasReply 200 events = false) (h227 : hasReply 227 events = false)
    (h425 : hasReply 425 events = false) :
    (session.spoken setting raw).setup? events = none := by
  simp only [Spoken.setup?, h200, h227, h425, Bool.false_eq_true, if_false]
  split <;> rfl

theorem boundIn?_passiveClosed (session : Session) : boundIn? session.passiveClosed = none := by
  unfold Session.passiveClosed
  cases session.passiveListener <;> cases session.forwardedPort <;> rfl

/-- The listener that a session comes to hold is the one that has been bound. -/
theorem exec_openPassive {endpoint : Endpoint}
    (run : Exec (DataChannel.openPassive setting session) events (.ok endpoint, session')) :
    ∃ listener, boundIn? events = some listener ∧ session'.passiveListener = some listener := by
  obtain ⟨opening, rfl, hopening⟩ := exec_openPassive_run run
  cases hopening with
  | @opened _ listener _ _ _ _ listening =>
    refine ⟨listener, ?_, rfl⟩
    rw [boundIn?, List.findSome?_append, ← boundIn?, boundIn?_passiveClosed]
    cases listening <;> rfl

/-- What the target becomes in view of a setup, if there is one. -/
def Target.hear? (target : Target) (setup? : Option Setup) : Target :=
  setup?.elim target target.hear

theorem target_named {port : UInt16} (h : port ≠ 0) :
    { session with
      passiveListener := none, forwardedPort := none, remoteDataPort := port
      passive := false : Session }.target = .client port := by
  simp [Session.target, h]

theorem target_refused :
    { session with passiveListener := none, forwardedPort := none : Session }.target =
      session.target.hear .refused := by
  unfold Session.target
  cases session.passive with
  | true => cases session.passiveListener <;> rfl
  | false =>
    simp only [Bool.false_eq_true, if_false]
    split <;> rfl

theorem exec_port_target {result : Status × Session} (now : Int)
    (find : Command.find? (Command.upperVerb raw) setting.config.extensions = some .port)
    (run : Exec (Action.port session (Command.argument .port (Command.upperVerb raw))) events
      result) :
    result.2.target = session.target.hear?
      ((session.spoken setting raw).setup? (events ++ [⟨.unixTime, now⟩])) := by
  rw [setup?_port find]
  unfold Action.port at run
  split at run
  · obtain ⟨rfl, rfl⟩ := (plays_fail ..).eq_of_exec run
    simp [Target.hear?]
  · rename_i port hport
    obtain ⟨_, rfl, hsucceed⟩ := (plays_closePassive session).of_bind run
    obtain ⟨rfl, rfl⟩ := (plays_succeed ..).eq_of_exec hsucceed
    rw [hport, List.append_assoc, hasReply_append,
      hasReply_of_silent (repliesIn_passiveClosed session)]
    exact target_named (Command.dataPort?_eq_some_iff.1 hport).ne_zero

theorem exec_pasv_target {result : Status × Session} (now : Int)
    (find : Command.find? (Command.upperVerb raw) setting.config.extensions = some .pasv)
    (run : Exec (Action.pasv setting session) events result) :
    result.2.target = session.target.hear?
      ((session.spoken setting raw).setup? (events ++ [⟨.unixTime, now⟩])) := by
  rw [setup?_pasv find]
  unfold Action.pasv at run
  obtain ⟨opening, ⟨opened, session'⟩, _, rfl, hopen, hanswer⟩ := Exec.bind_iff.1 run
  obtain ⟨_, hsilent, rfl⟩ := silent_openPassive setting session session.control _ _ hopen
  have hchange := (returns_openPassive setting session).of_exec hopen
  have hcode := (returns_openPassive_code setting session).of_exec hopen
  simp only [List.append_assoc, hasReply_append, hasReply_of_silent hsilent, Bool.false_or]
  cases opened with
  | ok endpoint =>
    obtain ⟨listener, hbound, hlistener⟩ := exec_openPassive hopen
    obtain ⟨rfl, rfl⟩ := (plays_succeed ..).eq_of_exec hanswer
    rw [boundIn?, List.findSome?_append, ← boundIn?, hbound]
    simp [Session.target, hlistener, Target.hear?, Target.hear]
  | error error =>
    obtain ⟨rfl, rfl⟩ := (plays_fail ..).eq_of_exec hanswer
    rw [hcode error rfl, show session' = _ from hchange]
    exact target_refused

/-- A line makes of the target what the machine makes of the answer to it. -/
theorem exec_dispatch_target {result : Status × Session}
    (run : Exec (Dispatch.dispatch setting session raw) events result) :
    result.2.target = session.target.hear? ((session.spoken setting raw).setup? events) := by
  cases exec_dispatch run with
  | unknown find now =>
    have hsetup : (session.spoken setting raw).setup? [said session.control 500 raw,
        ⟨.unixTime, now⟩] = none := by
      simp only [Spoken.setup?, Session.spoken, find]
    rw [hsetup]
    rfl
  | notLoggedIn | denied =>
    rw [setup?_of_unheard (by simp) (by simp) (by simp)]
    rfl
  | ignored =>
    rw [setup?_of_unheard rfl rfl rfl]
    rfl
  | @run command _ _ session' find _ hrun now =>
    show session'.target = _
    by_cases hport : command = .port
    · subst hport
      exact exec_port_target now find hrun
    · by_cases hpasv : command = .pasv
      · subst hpasv
        exact exec_pasv_target now find hrun
      · rw [setup?_of_ne find hport hpasv]
        exact ((returns_run ..).of_exec hrun).target_eq hport hpasv

theorem exec_processInput_target {result : Status × Session}
    (run : Exec (Dispatch.processInput setting session) events result) :
    result.2.target = session.target.hear? (session.input.nextLine?.bind fun next =>
      (session.spoken setting next.1).setup? events) := by
  cases exec_processInput run with
  | line next hline =>
    rw [next]
    have htarget := exec_dispatch_target hline
    exact htarget
  | overlong next | nothing next =>
    rw [next]
    rfl

end Lines

/-! ## Over a history -/

/-- What the line that is served in the entry has come to. -/
def Entry.setup? (slot : Nat) (entry : Entry) : Option Setup :=
  (entry.spoken? slot).bind fun spoken => spoken.setup? entry.events

/-- The setups of the session of the slot, in order. -/
def setupsIn (slot : Nat) (history : List Entry) : List Setup :=
  (lifetime slot history).reverse.filterMap (Entry.setup? slot)

theorem Becomes.target_eq {setting : Setting} {session session' : Session} {deed : Deed}
    (h : Becomes setting session deed session') (hdeed : deed ≠ .serve session.slot) :
    session'.target = session.target := by
  cases h with
  | heard => exact absurd rfl hdeed
  | _ => rfl

/-- The session and the machine agree, whatever has happened. -/
theorem Reachable.target_eq {history : List Entry} {server : Server} {slot : Nat}
    {session : Session} (h : Reachable history server)
    (get : server.sessions.get? slot = some session) :
    session.target = Target.replay (setupsIn slot history) := by
  refine h.lifetime_induction
    (P := fun life session =>
      session.target = Target.replay (life.reverse.filterMap (Entry.setup? slot)))
    (fun _ _ _ _ => rfl) ?_ get
  intro older entry session session' server' hreachable ih hget run get' hbecomes
  rw [List.reverse_cons, List.filterMap_append]
  -- The machine hears only the lines of the session, and no other deed changes the target.
  by_cases hdeed : entry.deed = .serve slot
  · rw [hdeed] at run
    obtain ⟨status, served, hserve, hserved⟩ := exec_serve hreachable.placed hget run
    rw [hserved] at get'
    cases get'
    rw [show session'.target = _ from exec_processInput_target hserve]
    simp only [List.filterMap_cons, List.filterMap_nil, Entry.setup?, Entry.spoken?, if_pos hdeed,
      hget, Option.bind_some]
    cases session.input.nextLine? with
    | none => simpa [Target.hear?] using ih
    | some next =>
      simp only [Option.map_some, Option.bind_some, ih]
      cases (session.spoken entry.before.setting next.1).setup? entry.events with
      | none => simp [Target.hear?]
      | some setup => exact (Target.replay_concat _ setup).symm
  · have hslot := hreachable.placed slot session hget
    rw [hbecomes.target_eq (hslot.symm ▸ hdeed), ih]
    simp [Entry.setup?, Entry.spoken?, hdeed]

end Ftp
