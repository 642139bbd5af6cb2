import Ftp.Proofs.Mediation

/-!
# Provenance of files

A file that is read or written was opened by a command that had the right to it. Within a line this
is a matter of the events before (`Earned`); a transfer that goes on in later passes carries its
file along, and `OpenedBy` follows it back through the history to the line that opened it.

* `safe_dispatch_earning`: a line touches only files that it has opened itself;
* `safe_perform_provenance`: a deed touches only files that the history accounts for, and leaves
  only such files to the transfers;
* `mediated_of_reachable`: rights, refusals and provenance, over every history.
-/

namespace Ftp

open Program

/-- The right to open a file. -/
def OpenMode.right : OpenMode → Right
  | .read => .read
  | .write => .write

theorem Transmission.Advances.access? {transmission transmission' : Transmission}
    (h : transmission.Advances transmission') {access : OpenMode × File}
    (haccess : transmission'.access? = some access) : transmission.access? = some access := by
  cases h with
  | same => exact haccess
  | remaining => exact haccess
  | ended => cases haccess

/-- Only a transfer command begins a transfer. -/
theorem Change.transmission_eq {setting : Setting} {session session' : Session} {argument : Text}
    {command : Command} (h : Change setting session argument command session')
    (hmode : command.transferMode? = none) :
    session'.transmission = session.transmission ∨ session'.transmission = .idle := by
  cases h with
  | abor => exact .inr rfl
  | retr | stor => cases hmode
  | _ => exact .inl rfl

/-! ## Within a line -/

/-- The command has had the file opened. -/
def Earned (command : Command) (events : List Event) (access : OpenMode × File) : Prop :=
  command.transferMode? = some access.1 ∧
    ∃ path, (⟨.openFile path access.1, .ok access.2⟩ : Event) ∈ events

/-- Lets the command read and write only what it has had opened. -/
def earning (command : Command) : Monitor (List Event) :=
  .auditing fun events r => ∀ access, r.access? = some access → Earned command events access

/-- The transfer of the session is that from before, or of a file that the command has had
opened. -/
def Fetched (command : Command) (before : Session) (session : Session) (events : List Event) :
    Prop :=
  session.transmission = before.transmission ∨
    ∀ access, session.transmission.access? = some access → Earned command events access

section Lines

variable {setting : Setting} {session : Session} {command : Command} {events : List Event}

theorem Earned.append {access : OpenMode × File} (h : Earned command events access)
    (later : List Event) : Earned command (events ++ later) access := by
  obtain ⟨hmode, path, hopen⟩ := h
  exact ⟨hmode, path, List.mem_append_left later hopen⟩

theorem Fetched.append {session' : Session} (h : Fetched command session session' events)
    (later : List Event) : Fetched command session session' (events ++ later) :=
  h.imp id fun hearned access haccess => (hearned access haccess).append later

/-- A program that neither reads nor writes a file suits every audit of files. -/
theorem safe_of_free {α : Type} {allows : List Event → Request → Prop} {program : Program α}
    (h : program.AsksOnly (fun _ => True) fun r => r.access? = none)
    (hallows : ∀ events r, r.access? = none → allows events r) {post : α → Prop}
    (hpost : program.Returns post) (events : List Event) :
    program.Safe (.auditing allows) events fun value _ => post value := by
  have hsafe : program.Safe (.auditing allows) events fun _ _ => True :=
    h.safe (fun w r _ hr => hallows w r hr) (fun _ _ _ _ => trivial) trivial
  exact (hsafe.and_returns hpost).mono fun _ _ hpost => hpost.2

theorem allows_earning_of_free {r : Request} (h : r.access? = none) (events : List Event) :
    (earning command).allows events r := fun access haccess => by rw [h] at haccess; cases haccess

theorem safe_earning_of_free {α : Type} {program : Program α}
    (h : program.AsksOnly (fun _ => True) fun r => r.access? = none) {post : α → Prop}
    (hpost : program.Returns post) (events : List Event) :
    program.Safe (earning command) events fun value _ => post value :=
  safe_of_free h (fun events _ hr => allows_earning_of_free hr events) hpost events

theorem safe_fail_earning (code : Nat) (text : Text) :
    (session.fail code text).Safe (earning command) events fun result events =>
      Fetched command session result.2 events := by
  have hsame : (session.fail code text).Returns fun result =>
      result.2.transmission = session.transmission := (returns_fail code text).2 rfl
  refine (safe_earning_of_free ?_ hsame events).mono fun _ _ h => .inl h
  exact asksOnly_fail (fun _ => Request.access?_of_not_isGuarded) code text

/-- A transfer touches no file but the one that it is of. -/
theorem safe_transfer_earning {transmission : Transmission} {path : Text} {mode : OpenMode}
    {file : File} (hmode : command.transferMode? = some mode)
    (htransmission : transmission.access? = some (mode, file))
    (hopened : (⟨.openFile path mode, .ok file⟩ : Event) ∈ events) :
    (Action.transfer setting session transmission).Safe (earning command) events
      fun result events => Fetched command session result.2 events := by
  have hfree : ∀ r : Request, r.isGuarded = false → r.access? = none :=
    fun _ => Request.access?_of_not_isGuarded
  have hearned : ∀ events : List Event, ⟨.openFile path mode, .ok file⟩ ∈ events →
      Earned command events (mode, file) := fun events hmem => ⟨hmode, path, hmem⟩
  unfold Action.transfer Transfer.start
  cases session.isTransferring with
  | true =>
    simp only [if_true]
    have hrelease : (Transfer.release transmission).Safe (earning command) events fun _ _ => True :=
      safe_earning_of_free (asksOnly_release hfree _) (returns_of_forall (fun _ => trivial) _) _
    exact (safe_bind ..).2 (hrelease.mono fun _ _ _ => safe_fail_earning _ _)
  | false =>
    simp only [Bool.false_eq_true, if_false]
    have hown : ∀ {access}, transmission.access? = some access → access = (mode, file) :=
      fun h => Option.some.inj (h.symm.trans htransmission)
    have hasks : (Transfer.step setting { session with transmission }).AsksOnly (fun _ => True)
        fun r => ∀ access, r.access? = some access → access = (mode, file) := by
      refine asksOnly_step (fun r h access haccess => ?_) (fun file' _ _ h _ access haccess => ?_)
        fun file' _ h _ access haccess => ?_
      · rw [hfree r h] at haccess; cases haccess
      · refine hown ?_
        rw [show transmission = _ from h]
        exact haccess
      · refine hown ?_
        rw [show transmission = _ from h]
        exact haccess
    have hstep := hasks.safe (m := earning command)
      (fun events r hmem hr access haccess => hr access haccess ▸ hearned events hmem)
      (fun events r answer hmem => List.mem_append_left _ hmem) hopened
    refine (safe_bind ..).2 ((hstep.and_returns (returns_step setting _)).mono ?_)
    rintro ⟨outcome, session'⟩ events ⟨hmem, now, transmission', hadvances, rfl⟩
    exact .inr fun access haccess => hown (hadvances.access? haccess) ▸ hearned events hmem

theorem safe_transferFile_earning {socket : Socket} {path : Text} {mode : OpenMode} {refusal : Text}
    {transmission : File → Transmission} (hmode : command.transferMode? = some mode)
    (htransmission : ∀ file, (transmission file).access? = some (mode, file)) :
    (Action.transferFile setting session socket path mode refusal transmission).Safe
      (earning command) events fun result events => Fetched command session result.2 events := by
  unfold Action.transferFile
  refine (safe_bind ..).2 ⟨allows_earning_of_free rfl _, fun opened _ => ?_⟩
  cases opened with
  | error error =>
    refine (safe_bind ..).2 ⟨allows_earning_of_free rfl _, fun _ _ => ?_⟩
    exact safe_fail_earning _ _
  | ok file =>
    have hopened := List.mem_append_right events
      (List.mem_singleton_self (⟨.openFile path mode, .ok file⟩ : Event))
    exact safe_transfer_earning hmode (htransmission file) hopened

theorem safe_withConnection_earning {next : Socket → Program (Status × Session)}
    (hnext : ∀ socket events, (next socket).Safe (earning command) events fun result events =>
      Fetched command session result.2 events) :
    (DataChannel.withConnection setting session next).Safe (earning command) events
      fun result events => Fetched command session result.2 events := by
  have hestablish : (DataChannel.establish setting session).Safe (earning command) events
      fun _ _ => True :=
    safe_earning_of_free (asksOnly_establish (fun _ => Request.access?_of_not_isGuarded)
      (fun _ _ => rfl) fun _ _ => rfl) (returns_of_forall (fun _ => trivial) _) events
  refine (safe_bind ..).2 (hestablish.mono fun established events _ => ?_)
  cases established with
  | ok socket => exact hnext socket events
  | error error => exact safe_fail_earning _ _

theorem safe_withPath_earning {path : Text} {next : Text → Program (Status × Session)}
    (hnext : ∀ resolved, (next resolved).Safe (earning command) events fun result events =>
      Fetched command session result.2 events) :
    (setting.withPath session path next).Safe (earning command) events fun result events =>
      Fetched command session result.2 events := by
  unfold Setting.withPath
  split
  · exact hnext _
  · exact safe_fail_earning _ _

theorem Transfers.safe_earning {argument path : Text} {program : Program (Status × Session)}
    (h : Transfers setting session argument path command program) :
    program.Safe (earning command) events fun result events =>
      Fetched command session result.2 events := by
  induction h generalizing events with
  | fails => exact safe_fail_earning _ _
  | asks inquires _ ih =>
    refine (safe_bind ..).2 ⟨allows_earning_of_free ?_ _, fun answer _ => ih answer⟩
    cases inquires <;> rfl
  | begins carries =>
    refine safe_withConnection_earning fun socket events => ?_
    refine (safe_bind ..).2 ⟨allows_earning_of_free rfl _, fun _ _ => ?_⟩
    refine safe_transferFile_earning ?_ fun file => ?_
    · cases carries <;> rfl
    · cases carries <;> rfl

/-- A command touches only files that it has had opened. -/
theorem safe_run_earning (setting : Setting) (session : Session) (argument : Text)
    (command : Command) (events : List Event) :
    (command.run setting session argument).Safe (earning command) events fun result events =>
      Fetched command session result.2 events := by
  cases hmode : command.transferMode? with
  | some mode =>
    obtain ⟨next, hrun, htransfers⟩ := Command.transfers setting session argument hmode
    rw [hrun]
    exact safe_withPath_earning fun path => (htransfers path).safe_earning
  | none =>
    have hasks : (command.run setting session argument).AsksOnly (fun _ => True)
        fun r => r.access? = none := by
      refine (asksOnly_run setting session _ argument command).mono fun r hasks => ?_
      have hkind := hasks.kind
      cases r with
      | readFile | writeFile =>
        rw [List.mem_singleton.1 (of_decide_eq_true hkind)] at hmode
        cases hmode
      | _ => rfl
    have hkeeps : (command.run setting session argument).Returns fun result =>
        result.2.transmission = session.transmission ∨ result.2.transmission = .idle := by
      exact (returns_run setting session argument command).mono
        fun result hchange => hchange.transmission_eq hmode
    refine (safe_earning_of_free hasks hkeeps events).mono fun result events h => ?_
    rcases h with hsame | hidle
    · exact .inl hsame
    · exact .inr fun access haccess => by rw [hidle] at haccess; cases haccess

/-- The line is that of a download or an upload that passed the check, and had the file opened. -/
def Grants (setting : Setting) (session : Session) (raw : Text) (events : List Event)
    (access : OpenMode × File) : Prop :=
  ∃ command path, Command.find? (Command.upperVerb raw) setting.config.extensions = some command ∧
    command.transferMode? = some access.1 ∧
    Dispatch.verdict setting session command = .run ∧ Holds setting session access.1.right ∧
    (⟨.openFile path access.1, .ok access.2⟩ : Event) ∈ events

/-- Lets a line read and write only what it has had opened. -/
def granting (setting : Setting) (session : Session) (raw : Text) : Monitor (List Event) :=
  .auditing fun events r => ∀ access, r.access? = some access →
    Grants setting session raw events access

theorem grants_of_earned {raw : Text} {access : OpenMode × File}
    (hfind : Command.find? (Command.upperVerb raw) setting.config.extensions = some command)
    (hverdict : Dispatch.verdict setting session command = .run)
    (h : Earned command events access) : Grants setting session raw events access := by
  obtain ⟨hmode, path, hopen⟩ := h
  refine ⟨command, path, hfind, hmode, hverdict, holds_of_verdict hverdict ?_, hopen⟩
  cases command with
  | retr | stor => rw [← Option.some.inj hmode]; rfl
  | _ => cases hmode

/-- A line touches only files that it has had opened, and leaves no other file to the session. -/
theorem safe_dispatch_earning (setting : Setting) (session : Session) (raw : Text)
    (events : List Event) :
    (Dispatch.dispatch setting session raw).Safe (granting setting session raw) events
      fun result events => result.2.transmission = session.transmission ∨
        ∀ access, result.2.transmission.access? = some access →
          Grants setting session raw events access := by
  have hallows : ∀ (events : List Event) (r : Request), r.access? = none →
      ∀ access, r.access? = some access → Grants setting session raw events access :=
    fun events r h access haccess => by rw [h] at haccess; cases haccess
  have hsay : ∀ code text, (session.say code text).AsksOnly (fun _ => True)
      fun r => r.access? = none :=
    asksOnly_say fun _ => Request.access?_of_not_isGuarded
  unfold Dispatch.dispatch
  cases hfind : Command.find? (Command.upperVerb raw) setting.config.extensions with
  | none =>
    simp only [hfind]
    refine (safe_of_free ?_ hallows ?_ events).mono fun result events h => .inl h
    · exact (hsay _ _).bind fun _ => ⟨rfl, fun _ _ => trivial⟩
    · exact (returns_bind ..).2 ((returns_say ..).2 ((returns_ask ..).2 fun _ => rfl))
  | some command =>
    simp only [hfind]
    cases hverdict : Dispatch.verdict setting session command with
    | notLoggedIn | denied =>
      refine (safe_of_free ?_ hallows ?_ events).mono fun result events h => .inl h
      · exact (hsay _ _).bind fun _ => trivial
      · exact (returns_bind ..).2 ((returns_say ..).2 rfl)
    | ignored => exact .inl rfl
    | run =>
      have hrun : (command.run setting session (command.argument (Command.upperVerb raw))).Safe
          (granting setting session raw) events _ :=
        (safe_run_earning setting session _ command events).of_allows
          (fun events r h access haccess => grants_of_earned hfind hverdict (h access haccess))
          (fun _ _ _ h => h) fun _ _ _ => rfl
      refine (safe_bind ..).2 (hrun.mono ?_)
      rintro ⟨status, session'⟩ events hfetched
      refine ⟨hallows _ _ rfl, fun now _ => ?_⟩
      rcases hfetched.append [⟨.unixTime, now⟩] with hsame | hearned
      · exact .inl hsame
      · exact .inr fun access haccess => grants_of_earned hfind hverdict (hearned access haccess)

end Lines

/-! ## Over a history -/

/-- In the entry a line of the session had the file opened, and passed the check. -/
structure Opens (entry : Entry) (session : Session) (access : OpenMode × File) : Prop where
  deed : entry.deed = .serve session.slot
  get : entry.before.sessions.get? session.slot = some session
  grants : ∃ raw input, session.input.nextLine? = some (raw, input) ∧
    Grants entry.before.setting session raw entry.events access

/-- A line of the session had the file opened, and the session has stood in its slot ever since. -/
inductive OpenedBy (access : OpenMode × File) : List Entry → Session → Prop
  | opened {entry : Entry} {older : List Entry} {session session' : Session}
    (opens : Opens entry session access) (same : session.SameClient session') :
    OpenedBy access (entry :: older) session'
  | kept {entry : Entry} {older : List Entry} {session session' : Session}
    (opened : OpenedBy access older session)
    (get : entry.before.sessions.get? session.slot = some session)
    (same : session.SameClient session') : OpenedBy access (entry :: older) session'

/-- The history accounts for the files of all transfers. -/
def Accounted (history : List Entry) (server : Server) : Prop :=
  ∀ slot session access, server.sessions.get? slot = some session →
    session.transmission.access? = some access → OpenedBy access history session

/-- Lets a deed read and write only what the history and the events of the deed account for. -/
def provenance (history : List Entry) (server : Server) (deed : Deed) : Monitor (List Event) :=
  .auditing fun events r => ∀ access, r.access? = some access → ∃ session,
    (deed = .advance session.slot ∨ deed = .serve session.slot) ∧
    server.sessions.get? session.slot = some session ∧
    OpenedBy access (⟨server, deed, events⟩ :: history) session

section Histories

variable {history : List Entry} {server : Server}

theorem Session.SameClient.refl (session : Session) : session.SameClient session :=
  ⟨rfl, rfl, rfl⟩

theorem Becomes.access? {setting : Setting} {session session' : Session} {deed : Deed}
    (h : Becomes setting session deed session') (hdeed : ∀ slot, deed ≠ .serve slot)
    {access : OpenMode × File} (haccess : session'.transmission.access? = some access) :
    session.transmission.access? = some access := by
  cases h with
  | kept | received => exact haccess
  | advanced hadvances => exact hadvances.access? haccess
  | heard => exact absurd rfl (hdeed _)

/-- Serving a line of a session. -/
theorem safe_processInput_provenance (accounted : Accounted history server) {session : Session}
    (hget : server.sessions.get? session.slot = some session) :
    (Dispatch.processInput server.setting session).Safe
      (provenance history server (.serve session.slot)) [] fun result events =>
        ∀ access, result.2.transmission.access? = some access →
          OpenedBy access (⟨server, .serve session.slot, events⟩ :: history) result.2 := by
  have hkept : ∀ events (session' : Session), session.SameClient session' →
      session'.transmission = session.transmission →
      ∀ access, session'.transmission.access? = some access →
        OpenedBy access (⟨server, .serve session.slot, events⟩ :: history) session' := by
    intro events session' hclient hsame access haccess
    rw [hsame] at haccess
    exact .kept (accounted _ session access hget haccess) hget hclient
  have hclient := (returns_processInput server.setting session).mono fun _ h => h.sameClient
  unfold Dispatch.processInput at hclient ⊢
  cases hnext : session.input.nextLine? with
  | none =>
    simp only [hnext] at hclient ⊢
    split
    · refine (safe_bind ..).2 ⟨fun access haccess => (by cases haccess), fun _ _ => ?_⟩
      exact hkept _ _ ⟨rfl, rfl, rfl⟩ rfl
    · exact hkept _ _ (.refl session) rfl
  | some next =>
    obtain ⟨raw, input⟩ := next
    simp only [hnext] at hclient ⊢
    have hopens : ∀ {events access},
        Grants server.setting { session with input } raw events access →
          Opens ⟨server, .serve session.slot, events⟩ session access :=
      fun h => ⟨rfl, hget, raw, input, hnext, h⟩
    have hdispatch : (Dispatch.dispatch server.setting { session with input } raw).Safe
        (provenance history server (.serve session.slot)) [] _ :=
      (safe_dispatch_earning server.setting { session with input } raw []).of_allows
        (fun events r h access haccess => ⟨session, .inr rfl, hget,
          .opened (hopens (h access haccess)) (.refl session)⟩)
        (fun _ _ _ h => h) fun _ _ _ => rfl
    refine (hdispatch.and_returns hclient).mono ?_
    rintro result events ⟨hsame | hgrants, hclient⟩
    · exact hkept _ _ hclient hsame
    · exact fun access haccess => .opened (hopens (hgrants access haccess)) hclient

/-- A deed touches only files that the history accounts for, and so do the transfers after it. -/
theorem safe_perform_provenance (placed : server.sessions.Placed)
    (accounted : Accounted history server) (deed : Deed) :
    (server.perform deed).Safe (provenance history server deed) [] fun server' events =>
      Accounted (⟨server, deed, events⟩ :: history) server' := by
  have hkept : ∀ {deed : Deed} {events : List Event} {slot : Nat} {session : Session} {access},
      server.sessions.get? slot = some session → session.transmission.access? = some access →
      ∀ session', session.SameClient session' →
        OpenedBy access (⟨server, deed, events⟩ :: history) session' := by
    intro deed events slot session access hget haccess session' hclient
    obtain rfl := placed slot session hget
    exact .kept (accounted _ session access hget haccess) hget hclient
  by_cases hserve : ∃ slot, deed = .serve slot
  · obtain ⟨slot, rfl⟩ := hserve
    simp only [Server.perform, Server.onSession]
    split
    · exact fun slot session access hget haccess => hkept hget haccess session (.refl session)
    · rename_i session hget
      obtain rfl := placed slot session hget
      have hlt := SessionTable.lt_capacity_of_get? hget
      have hclient := (returns_processInput server.setting session).mono fun _ h => h.sameClient
      simp only [safe_bind]
      refine ((safe_processInput_provenance accounted hget).and_returns hclient).mono ?_
      rintro ⟨status, session'⟩ events ⟨hopened, hclient⟩ slot other access hother haccess
      replace hclient : session.SameClient session' := hclient
      rw [SessionTable.get?_put (hclient.slot ▸ hlt)] at hother
      split at hother
      · cases hother
        exact hopened access haccess
      · exact hkept hother haccess other (.refl other)
  · replace hserve : ∀ slot, deed ≠ .serve slot := fun slot h => hserve ⟨slot, h⟩
    have hasks : (server.perform deed).Safe (provenance history server deed) []
        fun _ _ => True := by
      refine (asksOnly_perform deed hserve).safe (fun events r _ hr access haccess => ?_)
        (fun _ _ _ _ => trivial) trivial
      obtain ⟨slot, session, hdeed, hget, hown⟩ := hr.2 access haccess
      obtain rfl := placed slot session hget
      exact ⟨session, .inl hdeed, hget, hkept hget hown session (.refl session)⟩
    refine (hasks.and_returns (returns_perform placed deed)).mono ?_
    rintro server' events ⟨-, houtcome⟩ slot session' access hget' haccess
    rcases houtcome.get?_eq_some hget' with ⟨session, hget, hbecomes⟩ | ⟨-, -, _, _, _, _, rfl⟩
    · exact hkept hget (hbecomes.access? hserve haccess) session' hbecomes.sameClient
    · cases haccess

/-- Every history accounts for the files of all transfers. -/
theorem Reachable.accounted (h : Reachable history server) : Accounted history server := by
  obtain ⟨config, accounts, hleads⟩ := h
  induction hleads with
  | nil =>
    intro slot session access hget
    rw [Server.create, SessionTable.get?_free] at hget
    cases hget
  | @cons history server server' deed events hleads run ih =>
    have hplaced := hleads.placed (SessionTable.placed_free _ _)
    have hpost := (safe_perform_provenance hplaced ih deed).post_of_exec run
      (follows_auditing _ _ _)
    rw [provenance, after_auditing, List.nil_append] at hpost
    exact hpost

/-- The part of a history before an entry, and the run of its deed. -/
theorem Reachable.of_append {newer older : List Entry} {entry : Entry}
    (h : Reachable (newer ++ entry :: older) server) :
    Reachable older entry.before ∧
      ∃ server', Exec (entry.before.perform entry.deed) entry.events server' := by
  obtain ⟨config, accounts, hleads⟩ := h
  obtain ⟨holder, hrun⟩ := hleads.of_append_cons
  exact ⟨⟨config, accounts, holder⟩, hrun⟩

theorem Reachable.exists_of_mem {entry : Entry} (h : Reachable history server)
    (hmem : entry ∈ history) :
    ∃ older server', Reachable older entry.before ∧
      Exec (entry.before.perform entry.deed) entry.events server' := by
  obtain ⟨newer, older, rfl⟩ := List.append_of_mem hmem
  obtain ⟨hreachable, server', run⟩ := h.of_append
  exact ⟨older, server', hreachable, run⟩

/-- Whatever is read or written was opened for it by the session whose transfer it is. -/
theorem Reachable.openedBy {newer older : List Entry} {entry : Entry}
    (h : Reachable (newer ++ entry :: older) server) {before after : List Event} {event : Event}
    (hevents : entry.events = before ++ event :: after) {access : OpenMode × File}
    (haccess : event.request.access? = some access) :
    ∃ session, (entry.deed = .advance session.slot ∨ entry.deed = .serve session.slot) ∧
      entry.before.sessions.get? session.slot = some session ∧
      OpenedBy access ({ entry with events := before } :: older) session := by
  obtain ⟨hreachable, server', run⟩ := h.of_append
  rw [hevents] at run
  have hallows := (safe_perform_provenance hreachable.placed hreachable.accounted
    entry.deed).allows_of_exec run (follows_auditing _ _ _)
  rw [provenance, after_auditing, List.nil_append] at hallows
  exact hallows access haccess

end Histories

/-! ## Complete mediation -/

/-- What the rights of the accounts guarantee of a server with its history. -/
structure Mediated (history : List Entry) (server : Server) : Prop where
  /-- A line asks only what the session has the rights for. -/
  permitted : ∀ session ∈ server.sessions.sessions, ∀ input raw,
    (Dispatch.dispatch server.setting { session with input } raw).AsksOnly (fun _ => True)
      (Permitted server.setting session)
  /-- Without a login there is one reply and nothing else. -/
  notLoggedIn : ∀ session ∈ server.sessions.sessions, ∀ input raw command,
    Command.find? (Command.upperVerb raw) server.config.extensions = some command →
    command.needsLogin = true → session.isLoggedIn = false →
    Dispatch.dispatch server.setting { session with input } raw =
      .ask (.reply session.control (.line 530 "Please login with USER and PASS.")) fun _ =>
        .done (.failure "not logged in", { session with input })
  /-- Without a right that the command needs there is one reply and nothing else. -/
  denied : ∀ session ∈ server.sessions.sessions, ∀ input raw command right,
    Command.find? (Command.upperVerb raw) server.config.extensions = some command →
    session.isLoggedIn = true → command.rights.has right = true →
    ¬Holds server.setting session right →
    Dispatch.dispatch server.setting { session with input } raw =
      .ask (.reply session.control (.line 550 "Permission denied.")) fun _ =>
        .done (.failure "permission denied", { session with input })
  /-- Whatever has been read or written was opened for it by the session whose transfer it was. -/
  provenance : ∀ newer entry older, history = newer ++ entry :: older →
    ∀ before event after, entry.events = before ++ event :: after →
    ∀ access, event.request.access? = some access → ∃ session,
      (entry.deed = .advance session.slot ∨ entry.deed = .serve session.slot) ∧
      entry.before.sessions.get? session.slot = some session ∧
      OpenedBy access ({ entry with events := before } :: older) session

/-- Whatever has happened to a server, nothing goes past the rights of its accounts. -/
theorem mediated_of_reachable {history : List Entry} {server : Server}
    (h : Reachable history server) : Mediated history server where
  permitted session _ input raw :=
    asksOnly_permitted server.setting { session with input } raw
  notLoggedIn session _ input raw command hfind hneeds hlogin :=
    @dispatch_of_notLoggedIn _ { session with input } _ _ hfind hneeds hlogin
  denied session _ input raw command right hfind hlogin hright hlacks :=
    @dispatch_of_denied _ { session with input } _ _ _ hfind hlogin hright hlacks
  provenance newer entry older hhistory before event after hevents access haccess := by
    rw [hhistory] at h
    exact h.openedBy hevents haccess

/-- The server of a client that has logged in, may only download, and has begun to. -/
def visitedRetr : Server :=
  visited { name := "ada", password := [], root := "/srv/ftp", rights := { read := true } }
    { nodes := [("/srv/ftp/f".toList,
        { kind := .file, data := [1, 2, 3], statedSize := some 9000, modified := .ofUnix 0 })] }
    "USER ada\r\nPASS x\r\nPORT 127,0,0,1,19,137\r\nRETR f\r\n".toList 4

theorem mediated_of_reachable_retr : ∃ history, Reachable history visitedRetr ∧
    visitedRetr.sessions.sessions.map (fun session => (session.isLoggedIn, session.transmission)) =
      [(true, .retrieving ⟨1⟩ ⟨2⟩ 8997)] ∧
    Mediated history visitedRetr := by
  obtain ⟨history, hreachable⟩ : ∃ history, Reachable history visitedRetr :=
    exists_reachable_visited _ _ _ _
  exact ⟨history, hreachable, by decide +kernel, mediated_of_reachable hreachable⟩

end Ftp
