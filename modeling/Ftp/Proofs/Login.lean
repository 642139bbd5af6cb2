import Mathlib.Data.List.Induction
import Ftp.Proofs.Lifetime
import Ftp.Proofs.Mediation

/-!
# Login

Who a session is logged in as follows from the names and passwords that its client has given, and
from nothing else: `Login` is a machine that hears only these, and it agrees with the session after
every line.

* `Login.earned_replay`: an account is accepted only after its password has been given to the last
  name;
* `returns_dispatch_login`: what a line makes of the login;
* `Reachable.hasAccount`: the account of a session is in the registry;
* `login_of_reachable`: the session and the machine agree, over every history.
-/

namespace Ftp

open Program

/-- Who a session is logged in as. -/
inductive Login where
  | nobody
  /-- An account has been named, and its password has yet to be given. -/
  | named (id : AccountId)
  | accepted (id : AccountId)
  deriving DecidableEq, Repr

/-- What a client says to log in. -/
inductive Credential where
  | user (name : Text)
  | pass (password : Text)
  deriving DecidableEq, Repr

/-- A line that is served, and how things stand then. -/
structure Spoken where
  setting : Setting
  raw : Text
  /-- A transfer of the session is going on. -/
  transferring : Bool

/-- The name or the password in the line, if it is heard. -/
def Spoken.credential? (spoken : Spoken) : Option Credential :=
  let line := Command.upperVerb spoken.raw
  if spoken.transferring then none
  else
    match Command.find? line spoken.setting.config.extensions with
    | some .user => some (.user (Command.argument .user line))
    | some .pass => some (.pass (Command.argument .pass line))
    | _ => none

/-! ## The machine -/

namespace Login

/-- The account that has been named or accepted. -/
def account? : Login → Option AccountId
  | .nobody => none
  | .named id | .accepted id => some id

def isAccepted : Login → Bool
  | .accepted _ => true
  | _ => false

/-- The account exists, and has the password or none at all. -/
def Opens (accounts : Registry) (id : AccountId) (password : Text) : Prop :=
  ∃ account, accounts.get? id = some account ∧
    (account.password = [] ∨ account.password = password)

theorem acceptsPassword_iff {accounts : Registry} {id : AccountId} {password : Text} :
    accounts.acceptsPassword id password = true ↔ Opens accounts id password := by
  unfold Registry.acceptsPassword Opens
  cases accounts.get? id <;> simp

instance (accounts : Registry) (id : AccountId) (password : Text) :
    Decidable (Opens accounts id password) :=
  decidable_of_iff _ acceptsPassword_iff

/-- A name is remembered if there is an account with it. A password is for the account that was
named last, and one that does not open it ends the login. -/
def offer (accounts : Registry) (login : Login) : Credential → Login
  | .user name =>
    match accounts.find? name with
    | some id => .named id
    | none => .nobody
  | .pass password =>
    match login.account? with
    | some id => if Opens accounts id password then .accepted id else .nobody
    | none => .nobody

def hear (login : Login) (spoken : Spoken) : Login :=
  match spoken.credential? with
  | some credential => login.offer spoken.setting.accounts credential
  | none => login

theorem hear_eq_offer {login : Login} {spoken : Spoken} {credential : Credential}
    (h : spoken.credential? = some credential) :
    login.hear spoken = login.offer spoken.setting.accounts credential := by
  rw [hear, h]

theorem hear_eq_self {login : Login} {spoken : Spoken} (h : spoken.credential? = none) :
    login.hear spoken = login := by
  rw [hear, h]

/-- The login after some lines. -/
def replay (lines : List Spoken) : Login :=
  lines.foldl hear .nobody

end Login

/-- The last name that was given is that of the account, and no password was given since. -/
def Named (id : AccountId) (lines : List Spoken) : Prop :=
  ∃ before line after name, lines = before ++ line :: after ∧
    line.credential? = some (.user name) ∧ line.setting.accounts.find? name = some id ∧
    ∀ later ∈ after, later.credential? = none

/-- The last name that was given is that of the account. A password was given to it that opens it,
and only such passwords since. -/
def Presented (id : AccountId) (lines : List Spoken) : Prop :=
  ∃ before line after password, lines = before ++ line :: after ∧ Named id before ∧
    line.credential? = some (.pass password) ∧
    Login.Opens line.setting.accounts id password ∧
    ∀ later ∈ after, ∀ credential, later.credential? = some credential →
      ∃ password, credential = .pass password ∧ Login.Opens later.setting.accounts id password

section Machine

variable {id : AccountId} {lines : List Spoken} {line : Spoken}

theorem Named.concat (h : Named id lines) (hline : line.credential? = none) :
    Named id (lines ++ [line]) := by
  obtain ⟨before, first, after, name, rfl, hname, hid, hafter⟩ := h
  refine ⟨before, first, after ++ [line], name, by simp, hname, hid, fun later hlater => ?_⟩
  rcases List.mem_append.1 hlater with hlater | hlater
  · exact hafter later hlater
  · rwa [List.mem_singleton.1 hlater]

theorem Presented.concat (h : Presented id lines)
    (hline : ∀ credential, line.credential? = some credential →
      ∃ password, credential = .pass password ∧ Login.Opens line.setting.accounts id password) :
    Presented id (lines ++ [line]) := by
  obtain ⟨before, first, after, password, rfl, hnamed, hpass, hopens, hafter⟩ := h
  refine ⟨before, first, after ++ [line], password, by simp, hnamed, hpass, hopens,
    fun later hlater => ?_⟩
  rcases List.mem_append.1 hlater with hlater | hlater
  · exact hafter later hlater
  · rwa [List.mem_singleton.1 hlater]

theorem Login.replay_concat (lines : List Spoken) (line : Spoken) :
    Login.replay (lines ++ [line]) = (Login.replay lines).hear line := by
  rw [Login.replay, List.foldl_append]
  rfl

/-- What the lines hold that lead to a login. -/
def Login.Earned (lines : List Spoken) : Login → Prop
  | .nobody => True
  | .named id => Named id lines
  | .accepted id => Presented id lines

theorem Login.earned_offer {login : Login} (h : login.Earned lines) {credential : Credential}
    (hline : line.credential? = some credential) :
    (login.offer line.setting.accounts credential).Earned (lines ++ [line]) := by
  cases credential with
  | user name =>
    simp only [Login.offer]
    cases hid : line.setting.accounts.find? name with
    | none => trivial
    | some id => exact ⟨lines, line, [], name, rfl, hline, hid, by simp⟩
  | pass password =>
    cases login with
    | nobody => trivial
    | named id =>
      simp only [Login.offer, Login.account?]
      split
      · rename_i hopens
        exact ⟨lines, line, [], password, rfl, h, hline, hopens, by simp⟩
      · trivial
    | accepted id =>
      simp only [Login.offer, Login.account?]
      split
      · rename_i hopens
        refine Presented.concat h fun credential hcredential => ⟨password, ?_, hopens⟩
        rw [hline] at hcredential
        exact (Option.some.inj hcredential).symm
      · trivial

theorem Login.earned_replay (lines : List Spoken) : (Login.replay lines).Earned lines := by
  induction lines using List.reverseRecOn with
  | nil => trivial
  | append_singleton lines line ih =>
    rw [Login.replay_concat]
    cases hline : line.credential? with
    | some credential =>
      rw [Login.hear_eq_offer hline]
      exact Login.earned_offer ih hline
    | none =>
      rw [Login.hear_eq_self hline]
      cases hlogin : Login.replay lines with
      | nobody => trivial
      | named id =>
        rw [hlogin] at ih
        exact Named.concat ih hline
      | accepted id =>
        rw [hlogin] at ih
        exact Presented.concat ih fun credential h => by rw [hline] at h; cases h

end Machine

/-! ## Sessions -/

/-- Who the session is logged in as. Whether a password was accepted counts only together with the
account. -/
def Session.login (session : Session) : Login :=
  match session.account with
  | some id => if session.authenticated then .accepted id else .named id
  | none => .nobody

section Sessions

variable {setting : Setting} {session session' : Session} {raw : Text}

theorem account?_login (session : Session) : session.login.account? = session.account := by
  unfold Session.login
  cases session.account with
  | none => rfl
  | some id => cases session.authenticated <;> rfl

theorem isAccepted_login (session : Session) : session.login.isAccepted = session.isLoggedIn := by
  unfold Session.login Session.isLoggedIn
  cases session.account with
  | none => exact (Bool.and_false _).symm
  | some id => cases session.authenticated <;> rfl

theorem login_eq_accepted_iff {id : AccountId} :
    session.login = .accepted id ↔ session.loggedIn? = some id := by
  unfold Session.login Session.loggedIn?
  cases session.account <;> cases session.authenticated <;> simp

/-- A line as the session hears it. -/
def Session.spoken (setting : Setting) (session : Session) (raw : Text) : Spoken :=
  ⟨setting, raw, session.isTransferring⟩

/-- No command but `USER` and `PASS` has to do with the login. -/
theorem Change.login_eq {argument : Text} {command : Command}
    (h : Change setting session argument command session') (huser : command ≠ .user)
    (hpass : command ≠ .pass) : session'.login = session.login := by
  cases h with
  | user => exact absurd rfl huser
  | login | refused => exact absurd rfl hpass
  | _ => rfl

/-- What a line makes of the login, where a login stands at the root. -/
structure HeardLogin (setting : Setting) (session : Session) (raw : Text) (session' : Session) :
    Prop where
  login : session'.login = session.login.hear (session.spoken setting raw)
  workingDir : ∀ password, (session.spoken setting raw).credential? = some (.pass password) →
    session'.isLoggedIn = true → session'.workingDir = ['/']

theorem HeardLogin.of_silent (hsilent : (session.spoken setting raw).credential? = none)
    (h : session'.login = session.login) : HeardLogin setting session raw session' where
  login := by rw [h, Login.hear_eq_self hsilent]
  workingDir password hpass := by rw [hsilent] at hpass; cases hpass

theorem returns_pass (setting : Setting) (session : Session) (password : Text) :
    (Action.pass setting session password).Returns fun result =>
      result.2.login = session.login.offer setting.accounts (.pass password) ∧
        (result.2.isLoggedIn = true → result.2.workingDir = ['/']) := by
  have haccount := account?_login session
  simp only [Login.offer, haccount, Action.pass]
  cases hid : session.account with
  | none => exact (returns_fail _ _).2 ⟨rfl, fun h => by simp [Session.isLoggedIn] at h⟩
  | some id =>
    simp only [← Login.acceptsPassword_iff]
    split
    · refine (returns_succeed _ _).2 ⟨?_, fun _ => rfl⟩
      simp [Session.login, Session.authenticate, hid]
    · exact (returns_fail _ _).2 ⟨rfl, fun h => by simp [Session.isLoggedIn] at h⟩

theorem credential?_of_transferring (h : session.isTransferring = true) :
    (session.spoken setting raw).credential? = none := by
  simp [Spoken.credential?, Session.spoken, h]

theorem credential?_of_find?
    (h : Command.find? (Command.upperVerb raw) setting.config.extensions = none) :
    (session.spoken setting raw).credential? = none := by
  simp [Spoken.credential?, Session.spoken, h]

theorem credential?_of_ne {command : Command}
    (h : Command.find? (Command.upperVerb raw) setting.config.extensions = some command)
    (huser : command ≠ .user) (hpass : command ≠ .pass) :
    (session.spoken setting raw).credential? = none := by
  simp only [Spoken.credential?, Session.spoken, h]
  split
  · rfl
  · split
    · rename_i hcommand
      exact absurd (Option.some.inj hcommand) huser
    · rename_i hcommand
      exact absurd (Option.some.inj hcommand) hpass
    · rfl

/-- A command that runs makes of the login what the machine makes of its line. -/
theorem returns_run_login {command : Command}
    (hfind : Command.find? (Command.upperVerb raw) setting.config.extensions = some command)
    (hverdict : Dispatch.verdict setting session command = .run) :
    (command.run setting session (command.argument (Command.upperVerb raw))).Returns
      fun result => HeardLogin setting session raw result.2 := by
  by_cases huser : command = .user
  · subst huser
    have hidle := isTransferring_of_verdict hverdict rfl
    have hline : (session.spoken setting raw).credential? =
        some (.user (Command.argument .user (Command.upperVerb raw))) := by
      simp [Spoken.credential?, Session.spoken, hidle, hfind]
    refine (returns_succeed _ _).2 ⟨?_, fun password h => by rw [hline] at h; cases h⟩
    rw [Login.hear_eq_offer hline]
    simp only [Login.offer, Session.login, Session.spoken]
    cases setting.accounts.find? (Command.argument .user (Command.upperVerb raw)) <;> rfl
  · by_cases hpass : command = .pass
    · subst hpass
      have hidle := isTransferring_of_verdict hverdict rfl
      have hline : (session.spoken setting raw).credential? =
          some (.pass (Command.argument .pass (Command.upperVerb raw))) := by
        simp [Spoken.credential?, Session.spoken, hidle, hfind]
      refine (returns_pass setting session _).mono fun result h => ⟨?_, fun _ _ => h.2⟩
      rw [h.1, Login.hear_eq_offer hline]
      rfl
    · exact (returns_run setting session _ command).mono fun result hchange =>
        .of_silent (credential?_of_ne hfind huser hpass) (hchange.login_eq huser hpass)

/-- A line makes of the login what the machine makes of it. -/
theorem returns_dispatch_login (setting : Setting) (session : Session) (raw : Text) :
    (Dispatch.dispatch setting session raw).Returns fun result =>
      HeardLogin setting session raw result.2 := by
  unfold Dispatch.dispatch
  cases hfind : Command.find? (Command.upperVerb raw) setting.config.extensions with
  | none =>
    simp only [hfind, returns_bind, returns_say, Dispatch.touch, request, ask_bind, done_bind,
      returns_ask, pure_eq, returns_done]
    exact fun now => .of_silent (credential?_of_find? hfind) rfl
  | some command =>
    simp only [hfind]
    cases hverdict : Dispatch.verdict setting session command with
    | notLoggedIn | denied =>
      have hneeds := needsLogin_of_verdict hverdict (by decide) (by decide)
      simp only [returns_bind, returns_say, pure_eq, returns_done]
      refine .of_silent (credential?_of_ne hfind ?_ ?_) rfl
      · rintro rfl; cases hneeds
      · rintro rfl; cases hneeds
    | ignored =>
      have hactive := (isTransferring_of_ignored hverdict).1
      exact (returns_done _ _).2 (.of_silent (credential?_of_transferring hactive) rfl)
    | run =>
      simp only [returns_bind]
      refine (returns_run_login hfind hverdict).mono fun result hheard => ?_
      simp only [Dispatch.touch, request, ask_bind, done_bind, returns_ask, pure_eq, returns_done]
      exact fun now => ⟨hheard.login, hheard.workingDir⟩

end Sessions

/-! ## Over a history -/

/-- The line that is served in the entry. -/
def Entry.spoken? (slot : Nat) (entry : Entry) : Option Spoken :=
  if entry.deed = .serve slot then
    (entry.before.sessions.get? slot).bind fun session =>
      session.input.nextLine?.map fun next => session.spoken entry.before.setting next.1
  else none

/-- The lines of the session of the slot, in order. -/
def spokenIn (slot : Nat) (history : List Entry) : List Spoken :=
  (lifetime slot history).reverse.filterMap (Entry.spoken? slot)

section Histories

variable {history : List Entry} {server : Server} {slot : Nat} {session : Session}

/-- The next line, if there is one, makes of the login what the machine makes of it. -/
theorem returns_processInput_login (setting : Setting) (session : Session) :
    (Dispatch.processInput setting session).Returns fun result =>
      result.2.login = ((session.input.nextLine?.map fun next =>
        session.spoken setting next.1).elim session.login session.login.hear) := by
  unfold Dispatch.processInput
  cases session.input.nextLine? with
  | some next => exact (returns_dispatch_login setting _ next.1).mono fun result h => h.login
  | none =>
    simp only []
    split
    · exact (returns_bind ..).2 ((returns_say ..).2 rfl)
    · exact rfl

theorem Becomes.login_eq {setting : Setting} {session session' : Session} {deed : Deed}
    (h : Becomes setting session deed session') (hdeed : deed ≠ .serve session.slot) :
    session'.login = session.login := by
  cases h with
  | heard => exact absurd rfl hdeed
  | _ => rfl

/-- The session and the machine agree, whatever has happened. -/
theorem Reachable.login_eq (h : Reachable history server)
    (get : server.sessions.get? slot = some session) :
    session.login = Login.replay (spokenIn slot history) := by
  refine h.lifetime_induction
    (P := fun life session =>
      session.login = Login.replay (life.reverse.filterMap (Entry.spoken? slot)))
    (fun _ _ _ _ => rfl) ?_ get
  intro older entry session session' server' hreachable ih hget run get' hbecomes
  rw [List.reverse_cons, List.filterMap_append]
  by_cases hdeed : entry.deed = .serve slot
  · rw [hdeed] at run
    obtain ⟨status, served, hserve, hserved⟩ := exec_serve hreachable.placed hget run
    rw [hserved] at get'
    cases get'
    have hlogin := (returns_processInput_login _ session).of_exec hserve
    rw [show session'.login = _ from hlogin]
    simp only [List.filterMap_cons, List.filterMap_nil, Entry.spoken?, if_pos hdeed, hget,
      Option.bind_some]
    cases session.input.nextLine? with
    | none => simpa using ih
    | some next =>
      rw [Option.map_some, Option.elim_some, ih, ← Login.replay_concat]
  · have hslot := hreachable.placed slot session hget
    rw [hbecomes.login_eq (hslot.symm ▸ hdeed), ih]
    simp [Entry.spoken?, hdeed]

/-! ## The account -/

theorem Registry.exists_of_find? {accounts : Registry} {name : Text} {id : AccountId}
    (h : accounts.find? name = some id) :
    ∃ account, accounts.get? id = some account ∧ account.name = name := by
  obtain ⟨index, hindex, rfl⟩ := Option.map_eq_some_iff.1 h
  obtain ⟨hlt, hname, -⟩ := List.findIdx?_eq_some_iff_getElem.1 hindex
  exact ⟨_, List.getElem?_eq_getElem hlt, of_decide_eq_true hname⟩

/-- No account ever vanishes. -/
theorem Registry.exists_of_create {accounts accounts' : Registry} {account : Account}
    {created id : AccountId} (h : accounts.create account = .ok (created, accounts'))
    (hid : ∃ account, accounts.get? id = some account) :
    ∃ account, accounts'.get? id = some account := by
  obtain ⟨old, hold⟩ := hid
  have hlt : id.index < accounts.accounts.length := (List.getElem?_eq_some_iff.1 hold).1
  suffices id.index < accounts'.accounts.length from ⟨_, List.getElem?_eq_getElem this⟩
  unfold Registry.create at h
  split at h
  · cases h
  · split at h
    · cases h
      rwa [List.length_set]
    · split at h
      · cases h
      · cases h
        rw [List.length_append]
        exact Nat.lt_add_right _ hlt

/-- The account that the session names is in the registry. -/
def Session.HasAccount (accounts : Registry) (session : Session) : Prop :=
  ∀ id, session.account = some id → ∃ account, accounts.get? id = some account

theorem Change.hasAccount {setting : Setting} {session session' : Session} {argument : Text}
    {command : Command} (h : Change setting session argument command session')
    (hsession : session.HasAccount setting.accounts) : session'.HasAccount setting.accounts := by
  cases h with
  | user =>
    intro id hid
    obtain ⟨account, haccount, -⟩ := Registry.exists_of_find? hid
    exact ⟨account, haccount⟩
  | refused => exact fun id hid => by cases hid
  | _ => exact hsession

theorem Becomes.hasAccount {setting : Setting} {session session' : Session} {deed : Deed}
    (h : Becomes setting session deed session') (hsession : session.HasAccount setting.accounts) :
    session'.HasAccount setting.accounts := by
  cases h with
  | heard h =>
    cases h with
    | quiet => exact hsession
    | line _ hserved =>
      cases hserved with
      | refused | unknown => exact hsession
      | run _ _ hchange => exact hchange.hasAccount hsession
  | _ => exact hsession

theorem Outcome.exists_account {server server' : Server} {deed : Deed} {id : AccountId}
    (h : Outcome server deed server') (hid : ∃ account, server.accounts.get? id = some account) :
    ∃ account, server'.accounts.get? id = some account := by
  cases h with
  | registered hcreate => exact Registry.exists_of_create hcreate hid
  | _ => exact hid

theorem Reachable.hasAccount (h : Reachable history server)
    (get : server.sessions.get? slot = some session) : session.HasAccount server.accounts := by
  refine h.session_induction (P := fun _ server session => session.HasAccount server.accounts)
    ?_ ?_ get
  · rintro _ _ _ _ - - - - ⟨_, _, _, _, rfl⟩ id hid
    cases hid
  · intro _ _ _ _ _ hreachable ih _ run _ hbecomes id hid
    exact (hreachable.outcome run).exists_account (hbecomes.hasAccount ih id hid)

theorem exists_root_of_hasAccount {setting : Setting} (h : session.HasAccount setting.accounts)
    {id : AccountId} (hid : session.account = some id) :
    ∃ root, setting.root session = .ok root := by
  obtain ⟨account, haccount⟩ := h id hid
  refine ⟨account.root, ?_⟩
  simp [Setting.root, hid, Registry.root?, haccount]

/-! ## Agreement -/

/-- What the lines of a session say of its login. -/
structure LoggedInBy (lines : List Spoken) (setting : Setting) (session : Session) : Prop where
  isLoggedIn : session.isLoggedIn = (Login.replay lines).isAccepted
  account : session.account = (Login.replay lines).account?
  /-- Nobody is logged in whose password has not been given. -/
  presented : ∀ id, session.loggedIn? = some id → Presented id lines
  /-- The account that the session acts for exists, and so does its root. -/
  exists_account : ∀ id, session.account = some id →
    (∃ account, setting.accounts.get? id = some account) ∧ ∃ root, setting.root session = .ok root
  /-- Whoever logs in stands at the root. -/
  workingDir : ∀ input raw password,
    (session.spoken setting raw).credential? = some (.pass password) →
    (Dispatch.dispatch setting { session with input } raw).Returns fun result =>
      result.2.isLoggedIn = true → result.2.workingDir = ['/']

/-- Whatever has happened to a server, each of its sessions is logged in as its lines say. -/
theorem login_of_reachable (h : Reachable history server)
    (get : server.sessions.get? slot = some session) :
    LoggedInBy (spokenIn slot history) server.setting session := by
  have hlogin := h.login_eq get
  have haccount := h.hasAccount get
  refine ⟨?_, ?_, fun id hid => ?_, fun id hid => ?_, fun input raw password hpass => ?_⟩
  · rw [← hlogin, isAccepted_login]
  · rw [← hlogin, account?_login]
  · have hearned := Login.earned_replay (spokenIn slot history)
    rwa [← hlogin, login_eq_accepted_iff.2 hid] at hearned
  · exact ⟨haccount id hid, exists_root_of_hasAccount haccount hid⟩
  · exact (returns_dispatch_login server.setting { session with input } raw).mono
      fun result hheard => hheard.workingDir password hpass

/-- A client gives a password without a name, then a wrong one, and then logs in. -/
def thirdTry : List Entry × Server :=
  visit {} { name := "ada", password := "x", root := "/srv/ftp", rights := .all } {}
    "PASS x\r\nUSER ada\r\nPASS y\r\nPASS x\r\nUSER ada\r\nPASS x\r\n".toList
    (List.replicate 6 (.serve 0))

theorem login_of_reachable_thirdTry :
    ∃ session, Reachable thirdTry.1 thirdTry.2 ∧ thirdTry.2.sessions.get? 0 = some session ∧
      session.loggedIn? = some ⟨0⟩ ∧ (spokenIn 0 thirdTry.1).length = 6 ∧
      LoggedInBy (spokenIn 0 thirdTry.1) thirdTry.2.setting session := by
  have hreachable : Reachable thirdTry.1 thirdTry.2 := reachable_visit _ _ _ _ _
  have hget : (thirdTry.2.sessions.get? 0).bind Session.loggedIn? = some ⟨0⟩ := by decide +kernel
  obtain ⟨session, hsession, hid⟩ := Option.bind_eq_some_iff.1 hget
  exact ⟨session, hreachable, hsession, hid, by decide +kernel,
    login_of_reachable hreachable hsession⟩

end Histories

end Ftp
