import Ftp.Proofs.Footprint

/-!
# Mediation

What the platform is asked for a line is within the rights of the account that the session is logged
in to. The rights stand in a table beside the commands, and what a command may ask in another
(`Command.mayAsk`): the two fit together (`permitted_of_verdict`).

* `asksOnly_permitted`: a line asks only what the session has the rights for;
* `dispatch_of_notLoggedIn`, `dispatch_of_denied`: a line that is refused is answered, and that is
  all.
-/

namespace Ftp

open Program

/-- The session is logged in to an account that has the right. -/
def Holds (setting : Setting) (session : Session) (right : Right) : Prop :=
  ∃ id account, session.loggedIn? = some id ∧ setting.accounts.get? id = some account ∧
    account.rights.has right = true

/-- The session has the rights for the request. -/
def Permitted (setting : Setting) (session : Session) : Request → Prop
  | .openFile _ .write | .removeFile _ | .makeDir _ | .removeDir _ => Holds setting session .write
  | .openFile _ .read => Holds setting session .read
  | .readDir _ => Holds setting session .list
  | .stat _ =>
    Holds setting session .read ∨ Holds setting session .list ∨ Holds setting session .dir
  | .listen _ | .accept _ _ | .connect _ _ => session.isLoggedIn = true
  | _ => True

section Rights

variable {setting : Setting} {session : Session} {command : Command}

theorem isLoggedIn_eq (session : Session) :
    session.isLoggedIn = session.loggedIn?.isSome := by
  unfold Session.isLoggedIn Session.loggedIn?
  cases session.authenticated <;> rfl

theorem access_of_verdict (h : Dispatch.verdict setting session command = .run) :
    Dispatch.access setting session command = .run := by
  unfold Dispatch.verdict at h
  cases haccess : Dispatch.access setting session command with
  | run => rfl
  | notLoggedIn | denied | ignored => rw [haccess] at h; cases h

/-- Only what would run otherwise is left unheard. -/
theorem access_of_ignored (h : Dispatch.verdict setting session command = .ignored) :
    Dispatch.access setting session command = .run := by
  unfold Dispatch.verdict at h
  cases haccess : Dispatch.access setting session command with
  | run => rfl
  | notLoggedIn | denied => rw [haccess] at h; cases h
  | ignored =>
    unfold Dispatch.access at haccess
    grind

theorem isTransferring_of_ignored (h : Dispatch.verdict setting session command = .ignored) :
    session.isTransferring = true ∧ command.duringTransfer = false := by
  unfold Dispatch.verdict Dispatch.access at h
  cases hactive : session.isTransferring <;> cases hduring : command.duringTransfer <;>
    grind

/-- While a transfer is going on only few commands run. -/
theorem isTransferring_of_verdict (h : Dispatch.verdict setting session command = .run)
    (hduring : command.duringTransfer = false) : session.isTransferring = false := by
  have haccess := access_of_verdict h
  simpa [Dispatch.verdict, haccess, hduring] using h

/-- Only a command that needs a login is refused. -/
theorem needsLogin_of_verdict {verdict : Dispatch.Verdict}
    (h : Dispatch.verdict setting session command = verdict) (hrun : verdict ≠ .run)
    (hignored : verdict ≠ .ignored) : command.needsLogin = true := by
  cases hlogin : command.needsLogin with
  | true => rfl
  | false =>
    have haccess : Dispatch.access setting session command = .run := by
      simp [Dispatch.access, hlogin]
    simp only [Dispatch.verdict, haccess] at h
    split at h
    · exact absurd h.symm hignored
    · exact absurd h.symm hrun

theorem grants_of_access (h : Dispatch.access setting session command = .run)
    (hlogin : command.needsLogin = true) :
    ∃ id, session.loggedIn? = some id ∧ setting.accounts.grants id command.rights = true := by
  rw [Dispatch.access, if_pos hlogin] at h
  cases hid : session.loggedIn? with
  | none => rw [hid] at h; cases h
  | some id =>
    simp only [hid] at h
    split at h
    · rename_i hgrants
      exact ⟨id, rfl, hgrants⟩
    · cases h

/-- A command that needs a login runs in a session that is logged in to an account with the rights
that it needs. -/
theorem grants_of_verdict (h : Dispatch.verdict setting session command = .run)
    (hlogin : command.needsLogin = true) :
    ∃ id, session.loggedIn? = some id ∧ setting.accounts.grants id command.rights = true :=
  grants_of_access (access_of_verdict h) hlogin

theorem isLoggedIn_of_verdict (h : Dispatch.verdict setting session command = .run)
    (hlogin : command.needsLogin = true) : session.isLoggedIn = true := by
  obtain ⟨id, hid, -⟩ := grants_of_verdict h hlogin
  rw [isLoggedIn_eq, hid]
  rfl

theorem needsLogin_of_rights {right : Right} (h : command.rights.has right = true) :
    command.needsLogin = true := by
  cases command <;> cases right <;> first | rfl | cases h

theorem holds_of_grants {id : AccountId} {rights : Rights} (hid : session.loggedIn? = some id)
    (h : setting.accounts.grants id rights = true) {right : Right}
    (hright : rights.has right = true) : Holds setting session right := by
  unfold Registry.grants at h
  split at h
  · rename_i account haccount
    exact ⟨id, account, hid, haccount, Rights.contains_iff.1 h right hright⟩
  · cases h

theorem holds_of_verdict (h : Dispatch.verdict setting session command = .run) {right : Right}
    (hright : command.rights.has right = true) : Holds setting session right := by
  obtain ⟨id, hid, hgrants⟩ := grants_of_verdict h (needsLogin_of_rights hright)
  exact holds_of_grants hid hgrants hright

/-- What a command may ask is within the rights that it needs. -/
theorem permitted_of_verdict (h : Dispatch.verdict setting session command = .run) {r : Request}
    (hkind : command.mayAsk r = true) : Permitted setting session r := by
  have hdata : ∀ commands : List Command, (∀ command ∈ commands, command.needsLogin = true) →
      decide (command ∈ commands) = true → session.isLoggedIn = true :=
    fun commands hall hmem => isLoggedIn_of_verdict h (hall command (of_decide_eq_true hmem))
  have hfile : ∀ right (commands : List Command),
      (∀ command ∈ commands, command.rights.has right = true) →
      decide (command ∈ commands) = true → Holds setting session right :=
    fun right commands hall hmem => holds_of_verdict h (hall command (of_decide_eq_true hmem))
  cases r with
  | listen | accept | connect => exact hdata _ (by decide) hkind
  | openFile path mode =>
    cases mode with
    | read => exact hfile .read _ (by decide) hkind
    | write => exact hfile .write _ (by decide) hkind
  | readDir => exact hfile .list _ (by decide) hkind
  | removeFile | makeDir | removeDir => exact hfile .write _ (by decide) hkind
  | stat path =>
    have hsplit : command ∈ [Command.retr, .size, .mdtm, .mlst] ∨
        command ∈ [Command.list, .nlst, .mlsd] ∨ command ∈ [Command.cwd, .cdup] := by
      have hmem := of_decide_eq_true hkind
      simp only [List.mem_cons, List.not_mem_nil, or_false] at hmem
      rcases hmem with rfl | rfl | rfl | rfl | rfl | rfl | rfl | rfl | rfl <;> decide
    rcases hsplit with hread | hlist | hdir
    · exact .inl (hfile .read _ (by decide) (decide_eq_true hread))
    · exact .inr (.inl (hfile .list _ (by decide) (decide_eq_true hlist)))
    · exact .inr (.inr (hfile .dir _ (by decide) (decide_eq_true hdir)))
  | _ => trivial

/-- A line asks only what the session has the rights for. -/
theorem asksOnly_permitted (setting : Setting) (session : Session) (raw : Text) :
    (Dispatch.dispatch setting session raw).AsksOnly (fun _ => True)
      (Permitted setting session) := by
  refine (asksOnly_dispatch setting session _ raw).mono fun r h => ?_
  rcases h with hfree | ⟨command, -, hverdict, hasks⟩
  · cases r <;> trivial
  · exact permitted_of_verdict hverdict hasks.kind

/-! ## Refusals -/

variable {raw : Text}

/-- All that happens to a line of a session that should be logged in is one reply. -/
theorem dispatch_of_notLoggedIn
    (hfind : Command.find? (Command.upperVerb raw) setting.config.extensions = some command)
    (hlogin : command.needsLogin = true) (h : session.isLoggedIn = false) :
    Dispatch.dispatch setting session raw =
      .ask (.reply session.control (.line 530 "Please login with USER and PASS.")) fun _ =>
        .done (.failure "not logged in", session) := by
  have hnone : session.loggedIn? = none := by
    rw [isLoggedIn_eq] at h
    cases hid : session.loggedIn? with
    | none => rfl
    | some id => rw [hid] at h; cases h
  have hverdict : Dispatch.verdict setting session command = .notLoggedIn := by
    rw [Dispatch.verdict, Dispatch.access, if_pos hlogin, hnone]
  unfold Dispatch.dispatch
  simp only [hfind, hverdict]
  rfl

/-- All that happens to a line of a session whose account lacks a right is one reply. -/
theorem dispatch_of_denied {right : Right}
    (hfind : Command.find? (Command.upperVerb raw) setting.config.extensions = some command)
    (hlogin : session.isLoggedIn = true) (hright : command.rights.has right = true)
    (h : ¬Holds setting session right) :
    Dispatch.dispatch setting session raw =
      .ask (.reply session.control (.line 550 "Permission denied.")) fun _ =>
        .done (.failure "permission denied", session) := by
  obtain ⟨id, hid⟩ : ∃ id, session.loggedIn? = some id :=
    Option.isSome_iff_exists.1 (isLoggedIn_eq session ▸ hlogin)
  have hlacks : ¬setting.accounts.grants id command.rights = true :=
    fun hgrants => h (holds_of_grants hid hgrants hright)
  have hverdict : Dispatch.verdict setting session command = .denied := by
    rw [Dispatch.verdict, Dispatch.access, if_pos (needsLogin_of_rights hright)]
    simp only [hid, if_neg hlacks]
  unfold Dispatch.dispatch
  simp only [hfind, hverdict]
  rfl

end Rights

end Ftp
