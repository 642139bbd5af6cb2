import Ftp.Proofs.Delivery
import Ftp.Proofs.Lookup
import Ftp.Proofs.Registration

/-!
# Logging in to an account

A client logs in to an account by two lines, which give its name and its password. What is heard of
either begins behind the spaces and tabs in front of it, and is otherwise what was sent. So a client
can log in to an account exactly if neither its name nor its password begins with a space or a tab.

* `heeds_of_dispatch`: what becomes of a session by a line that gives a credential;
* `Leads.heeds`: what becomes of it by several, whatever is done in between;
* `Login.offer_credentials_iff`: which accounts are opened by what is heard of their credentials;
* `logsIn_of_reachable`: the two lines are served once they have been received, and log the client
  in.
-/

namespace Ftp

open Program LineBuffer

/-! ## Credentials -/

namespace Credential

/-- The command by which the credential is given. -/
def command : Credential → Command
  | .user _ => .user
  | .pass _ => .pass

def text : Credential → Text
  | .user name => name
  | .pass password => password

/-- The line by which the credential is given. -/
def line (credential : Credential) : Text :=
  credential.command.verb ++ ' ' :: credential.text

/-- What is heard of the line: the padding in front of the credential is lost. -/
def heard : Credential → Credential
  | .user name => .user (name.dropWhile Text.isPadding)
  | .pass password => .pass (password.dropWhile Text.isPadding)

/-- There is no padding in front of the credential. -/
def IsPlain (credential : Credential) : Prop :=
  ∀ c ∈ credential.text.head?, Text.isPadding c = false

example : line (.user "ada") = "USER ada".toList ∧ line (.pass " x") = "PASS  x".toList := by
  decide

theorem dropWhile_eq_self_iff {s : Text} :
    s.dropWhile Text.isPadding = s ↔ ∀ c ∈ s.head?, Text.isPadding c = false := by
  cases s <;> simp [List.dropWhile_eq_self_iff]

theorem heard_eq_self_iff {credential : Credential} :
    credential.heard = credential ↔ credential.IsPlain := by
  cases credential <;> simp only [heard, IsPlain, text, user.injEq, pass.injEq] <;>
    exact dropWhile_eq_self_iff

theorem command_heard (credential : Credential) :
    credential.heard.command = credential.command := by
  cases credential <;> rfl

theorem asciiUpper_verb (credential : Credential) :
    Text.asciiUpper credential.command.verb = credential.command.verb := by
  cases credential <;> simp only [command] <;> decide

/-- A credential may be given at any time. -/
theorem needsLogin_eq (credential : Credential) : credential.command.needsLogin = false := by
  cases credential <;> rfl

theorem mem_enabled (credential : Credential) (extensions : Bool) :
    credential.command ∈ Command.enabled extensions := by
  cases credential <;> cases extensions <;> simp only [command] <;> decide

end Credential

/-- What a client that logs in to the account gives. -/
def Account.credentials (account : Account) : List Credential :=
  [.user account.name, .pass account.password]

/-- The lines by which it logs in. -/
def Account.lines (account : Account) : List Text :=
  account.credentials.map Credential.line

namespace Login

/-- What a client is told when it gives the credential. -/
def answer (accounts : Registry) (login : Login) (credential : Credential) : Reply :=
  match credential with
  | .user _ => .line 331 "Please specify the password."
  | .pass _ =>
    if (login.offer accounts credential).isAccepted then .line 230 "Login successful."
    else .line 530 "Login incorrect."

/-- What it is told when it gives some credentials, one after the other. -/
def answers (accounts : Registry) (login : Login) : List Credential → List Reply
  | [] => []
  | credential :: given =>
    login.answer accounts credential :: answers accounts (login.offer accounts credential) given

theorem answers_append (accounts : Registry) (login : Login) (given more : List Credential) :
    login.answers accounts (given ++ more) = login.answers accounts given ++
      (given.foldl (Login.offer accounts) login).answers accounts more := by
  induction given generalizing login with
  | nil => rfl
  | cons credential given ih =>
    rw [List.cons_append, answers, answers, ih]
    rfl

section Credentials

variable {accounts : Registry} {id : AccountId} {account : Account}

theorem account?_offer_user (accounts : Registry) (login : Login) (name : Text) :
    (login.offer accounts (.user name)).account? = accounts.find? name := by
  simp only [offer]
  cases accounts.find? name <;> rfl

theorem offer_pass_eq_accepted_iff {login : Login} {password : Text} :
    login.offer accounts (.pass password) = .accepted id ↔
      login.account? = some id ∧ Opens accounts id password := by
  simp only [offer]
  cases login.account? with
  | none => simp
  | some other =>
    by_cases hid : other = id
    · subst hid
      simp
    · simp only [Option.some.injEq, hid, false_and, iff_false]
      split <;> simp [hid]

/-- An account is opened by what is heard of its credentials if that is all of them. -/
theorem offer_credentials_iff (sound : accounts.Sound) (hid : accounts.get? id = some account)
    (login : Login) :
    (account.credentials.map Credential.heard).foldl (Login.offer accounts) login = .accepted id ↔
      ∀ credential ∈ account.credentials, credential.IsPlain := by
  simp only [Account.credentials, List.map_cons, List.map_nil, List.foldl_cons, List.foldl_nil,
    List.forall_mem_cons, List.not_mem_nil, false_imp_iff, implies_true, and_true,
    ← Credential.heard_eq_self_iff, Credential.heard, Credential.user.injEq, Credential.pass.injEq]
  rw [offer_pass_eq_accepted_iff, account?_offer_user, sound.find?_eq_some_iff]
  refine and_congr ?_ ?_
  · simp [Registry.Denotes, hid, eq_comm]
  · simp only [Opens, hid, Option.some.injEq, exists_eq_left']
    refine ⟨fun hopens => ?_, fun hpassword => .inr hpassword.symm⟩
    -- An account without a password opens to any, and nothing of its own is lost.
    rcases hopens with hnone | hpassword
    · rw [hnone]
      rfl
    · exact hpassword.symm

theorem answers_credentials (sound : accounts.Sound) (hid : accounts.get? id = some account)
    (hplain : ∀ credential ∈ account.credentials, credential.IsPlain) (login : Login) :
    login.answers accounts (account.credentials.map Credential.heard) =
      [.line 331 "Please specify the password.", .line 230 "Login successful."] := by
  have hopened := (offer_credentials_iff sound hid login).2 hplain
  simp only [Account.credentials, List.map_cons, List.map_nil, List.foldl_cons, List.foldl_nil,
    Credential.heard] at hopened
  simp only [Account.credentials, List.map_cons, List.map_nil, Credential.heard, answers, answer,
    hopened, isAccepted, if_true]

end Credentials

end Login

/-! ## One credential -/

/-- What becomes of a session, and what it is told, when the credentials are heard. -/
structure Heeds (accounts : Registry) (session : Session) (given : List Credential)
    (replies : List Reply) (session' : Session) : Prop where
  login_eq : session'.login = given.foldl (Login.offer accounts) session.login
  idle : session'.isTransferring = false
  replies_eq : replies = session.login.answers accounts given

section Sessions

variable {accounts : Registry} {setting : Setting} {session before session' : Session}
  {given more : List Credential} {replies later : List Reply} {credential : Credential}
  {events : List Event} {result : Status × Session}

theorem heeds_nil (hlogin : session'.login = session.login)
    (hidle : session'.isTransferring = false) : Heeds accounts session [] [] session' :=
  ⟨hlogin, hidle, rfl⟩

theorem Heeds.trans (h : Heeds accounts session given replies before)
    (h' : Heeds accounts before more later session') :
    Heeds accounts session (given ++ more) (replies ++ later) session' where
  login_eq := by rw [h'.login_eq, h.login_eq, List.foldl_append]
  idle := h'.idle
  replies_eq := by rw [h.replies_eq, h'.replies_eq, h.login_eq, Login.answers_append]

/-- The runs of a command that gives a credential. -/
theorem heeds_of_run (hidle : session.isTransferring = false)
    (run : Exec (credential.command.run setting session credential.text) events result) :
    ∃ reply, events = [⟨.reply session.control reply, ()⟩] ∧ result.1 ≠ .close ∧
      Heeds setting.accounts session [credential] [reply] result.2 := by
  cases credential with
  | user name =>
    change Exec (Action.user setting session name) events result at run
    obtain ⟨rfl, rfl⟩ := (plays_succeed ..).eq_of_exec run
    refine ⟨_, rfl, by simp, ⟨?_, hidle, rfl⟩⟩
    simp only [Session.login, List.foldl_cons, List.foldl_nil, Login.offer]
    cases setting.accounts.find? name <;> rfl
  | pass password =>
    have hlogin : result.2.login = session.login.offer setting.accounts (.pass password) :=
      ((returns_pass setting session password).of_exec run).1
    have hanswer : session.login.answer setting.accounts (.pass password) =
        if result.2.isLoggedIn then .line 230 "Login successful."
        else .line 530 "Login incorrect." := by
      rw [Login.answer, ← hlogin, isAccepted_login]
    suffices ∃ reply, events = [⟨.reply session.control reply, ()⟩] ∧ result.1 ≠ .close ∧
        result.2.isTransferring = false ∧
        reply = session.login.answer setting.accounts (.pass password) by
      obtain ⟨reply, hevents, hstatus, hidle, hreply⟩ := this
      exact ⟨reply, hevents, hstatus, hlogin, hidle, by rw [hreply]; rfl⟩
    rw [hanswer]
    change Exec (Action.pass setting session password) events result at run
    unfold Action.pass at run
    cases haccount : session.account with
    | none =>
      rw [haccount] at run
      obtain ⟨rfl, rfl⟩ := (plays_fail ..).eq_of_exec run
      exact ⟨_, rfl, by simp, hidle, by simp [Session.isLoggedIn]⟩
    | some id =>
      simp only [haccount] at run
      split at run
      · obtain ⟨rfl, rfl⟩ := (plays_succeed ..).eq_of_exec run
        exact ⟨_, rfl, by simp, hidle, by simp [Session.isLoggedIn, Session.authenticate, haccount]⟩
      · obtain ⟨rfl, rfl⟩ := (plays_fail ..).eq_of_exec run
        exact ⟨_, rfl, by simp, hidle, by simp [Session.isLoggedIn]⟩

/-- A line that gives a credential is served as what is heard of it. -/
theorem heeds_of_dispatch (hidle : session.isTransferring = false)
    (run : Exec (Dispatch.dispatch setting session credential.line) events result) :
    ∃ reply, repliesIn events = [(session.control, reply)] ∧ result.1 ≠ .close ∧
      Heeds setting.accounts session [credential.heard] [reply] result.2 := by
  have hfind : Command.find? (Command.upperVerb credential.line) setting.config.extensions =
      some credential.command :=
    Command.find?_eq_some_iff.2 ⟨credential.mem_enabled _, credential.command.verb,
      ' ' :: credential.text, rfl, credential.asciiUpper_verb⟩
  have hverdict : Dispatch.verdict setting session credential.command = .run := by
    simp [Dispatch.verdict, Dispatch.access, credential.needsLogin_eq, hidle]
  have hargument : credential.command.argument (Command.upperVerb credential.line) =
      credential.heard.text := by
    rw [Credential.line, Command.argument_of_padding credential.asciiUpper_verb (by simp; decide)]
    cases credential <;> rfl
  cases exec_dispatch run with
  | unknown find => cases hfind.symm.trans find
  | notLoggedIn find verdict | denied find verdict | ignored find verdict =>
    cases hfind.symm.trans find
    cases hverdict.symm.trans verdict
  | run find _ ran now =>
    cases hfind.symm.trans find
    rw [hargument, ← credential.command_heard] at ran
    obtain ⟨reply, rfl, hstatus, hheeds⟩ := heeds_of_run hidle ran
    exact ⟨reply, rfl, hstatus, hheeds.login_eq, hheeds.idle, hheeds.replies_eq⟩

/-- The reports of the lines by which the credentials are given. -/
def reportsOf (given : List Credential) : List Report :=
  given.map fun credential => .line credential.line

/-- A line that gives a credential is heard, and does not end the session. -/
theorem heeds_of_processInput (hidle : session.isTransferring = false)
    (hreport : session.input.nextReport.1.toList = reportsOf given)
    (run : Exec (Dispatch.processInput setting session) events result) :
    ∃ replies, repliesIn events = replies.map (session.control, ·) ∧ result.1 ≠ .close ∧
      Heeds setting.accounts session (given.map Credential.heard) replies result.2 := by
  unfold nextReport at hreport
  cases exec_processInput run with
  | @line raw input _ _ next hrun =>
    rw [next] at hreport
    obtain ⟨credential, rest, rfl, hline, hrest⟩ := List.map_eq_cons_iff.1 hreport.symm
    obtain rfl := List.map_eq_nil_iff.1 hrest
    cases hline
    obtain ⟨reply, hreply, hstatus, hheeds⟩ :=
      @heeds_of_dispatch _ { session with input } _ _ _ hidle hrun
    exact ⟨[reply], hreply, hstatus, hheeds.login_eq, hheeds.idle, hheeds.replies_eq⟩
  | overlong next overflowed =>
    simp only [next, overflowed, if_true] at hreport
    obtain ⟨credential, rest, -, hline, -⟩ := List.map_eq_cons_iff.1 hreport.symm
    cases hline
  | nothing next spare =>
    simp only [next, spare, Bool.false_eq_true, if_false] at hreport
    obtain rfl := List.map_eq_nil_iff.1 hreport.symm
    exact ⟨[], rfl, by simp, heeds_nil rfl hidle⟩

end Sessions

/-! ## Over some deeds -/

section Deeds

variable {server server' : Server} {history recent : List Entry} {slot : Nat} {deed : Deed}
  {events : List Event} {session session' : Session} {given : List Credential}

/-- Unless it is served, a session without a transfer keeps its login and is told nothing. -/
theorem quiet_of_perform (placed : server.sessions.Placed)
    (run : Exec (server.perform deed) events server')
    (get : server.sessions.get? slot = some session)
    (get' : server'.sessions.get? slot = some session') (hidle : session.isTransferring = false)
    (hserve : deed ≠ .serve slot) :
    session'.login = session.login ∧ session'.isTransferring = false ∧
      Entry.told slot ⟨server, deed, events⟩ = [] := by
  obtain ⟨before, hbefore, hbecomes⟩ :=
    (((returns_perform placed deed).of_exec run).get?_eq_some get').resolve_right
      fun ⟨_, hfree, _⟩ => by rw [get] at hfree; cases hfree
  cases get.symm.trans hbefore
  have hslot := placed slot session get
  refine ⟨hbecomes.login_eq (hslot.symm ▸ hserve), ?_⟩
  by_cases hdeed : deed.slot? = some slot
  · cases deed with
    | start | register | poll | accept | readClock | unlisten => cases hdeed
    | advance =>
      cases hdeed
      obtain ⟨outcome, after, hstep, hget⟩ := exec_advance placed get run
      cases get'.symm.trans hget
      obtain ⟨now, rfl, rfl⟩ := exec_step_idle hidle hstep
      exact ⟨hidle, if_pos rfl⟩
    | receive =>
      cases hdeed
      obtain ⟨alive, after, hreceive, hget⟩ := exec_receive placed get run
      cases get'.symm.trans hget
      have hslot : (Deed.receive slot).slot? = some slot := rfl
      obtain ⟨-, htold⟩ := told_of_tells server hslot
        (silent_receive server.setting session session.control) hreceive
      obtain ⟨input, hafter⟩ := (returns_receive server.setting session).of_exec hreceive
      rw [show session' = _ from hafter]
      exact ⟨hidle, htold⟩
    | serve =>
      cases hdeed
      exact absurd rfl hserve
    | close =>
      cases hdeed
      rw [get?_of_close (.inl rfl) run] at get'
      cases get'
    | expire =>
      cases hdeed
      rw [get?_of_close (.inr rfl) run] at get'
      cases get'
  · rw [Entry.told, if_neg hdeed, Session.isTransferring,
      hbecomes.transmission_eq (hslot.symm ▸ hdeed)]
    exact ⟨hidle, rfl⟩

/-- In a deed a session without a transfer hears the credential that is served to it, and nothing
else. -/
theorem heeds_of_perform (placed : server.sessions.Placed)
    (run : Exec (server.perform deed) events server')
    (get : server.sessions.get? slot = some session)
    (get' : server'.sessions.get? slot = some session') (hidle : session.isTransferring = false)
    (hreport : (Entry.report? slot ⟨server, deed, events⟩).toList = reportsOf given) :
    Heeds server.accounts session (given.map Credential.heard)
      (Entry.told slot ⟨server, deed, events⟩) session' := by
  by_cases hserve : deed = .serve slot
  · subst hserve
    obtain ⟨status, after, hrun, hget⟩ := exec_serve placed get run
    cases get'.symm.trans hget
    rw [Entry.report?, if_pos (by rfl), get, Option.bind_some] at hreport
    obtain ⟨replies, hreplies, -, hheeds⟩ := heeds_of_processInput hidle hreport hrun
    have htold : Entry.told slot ⟨server, .serve slot, events⟩ = replies := by
      rw [Entry.told, if_pos (by rfl), hreplies, List.map_map]
      exact List.map_id replies
    rw [htold]
    exact hheeds
  · rw [Entry.report?, if_neg hserve] at hreport
    obtain rfl := List.map_eq_nil_iff.1 hreport.symm
    obtain ⟨hlogin, hidle, htold⟩ := quiet_of_perform placed run get get' hidle hserve
    rw [htold]
    exact heeds_nil hlogin hidle

theorem Outcome.accounts_eq (h : Outcome server deed server') (hdeed : deed.isRoutine = true) :
    server'.accounts = server.accounts := by
  cases h with
  | registered => cases hdeed
  | _ => rfl

theorem Leads.accounts_eq (h : Leads server recent server') (placed : server.sessions.Placed)
    (routine : ∀ entry ∈ recent, entry.deed.isRoutine = true) :
    server'.accounts = server.accounts := by
  induction h with
  | nil => rfl
  | cons leads run ih =>
    obtain ⟨hdeed, hrest⟩ := List.forall_mem_cons.1 routine
    have houtcome := (returns_perform (leads.placed placed) _).of_exec run
    rw [houtcome.accounts_eq hdeed, ih hrest]

/-- Over deeds of the loop a session without a transfer hears the credentials that are served to it,
and nothing else. -/
theorem Leads.heeds (leads : Leads server recent server') (h : Reachable history server)
    (routine : ∀ entry ∈ recent, entry.deed.isRoutine = true) (stays : Stays slot recent)
    (get : server.sessions.get? slot = some session)
    (get' : server'.sessions.get? slot = some session') (hidle : session.isTransferring = false)
    (hreports : reportsIn slot recent = reportsOf given) :
    Heeds server.accounts session (given.map Credential.heard)
      (recent.reverse.flatMap (Entry.told slot)) session' := by
  induction leads generalizing session' given with
  | nil =>
    cases get.symm.trans get'
    obtain rfl := List.map_eq_nil_iff.1 hreports.symm
    exact heeds_nil rfl hidle
  | cons leads run ih =>
    obtain ⟨hdeed, hroutine⟩ := List.forall_mem_cons.1 routine
    obtain ⟨hsome, hrest⟩ := List.forall_mem_cons.1 stays
    obtain ⟨before, hbefore⟩ := Option.isSome_iff_exists.1 hsome
    rw [reportsIn_cons hbefore] at hreports
    obtain ⟨early, late, rfl, hearly, hlate⟩ := List.map_eq_append_iff.1 hreports.symm
    have hheeds := ih hroutine hrest hbefore hearly.symm
    have hstep := heeds_of_perform (leads.placed h.placed) run hbefore get' hheeds.idle hlate.symm
    rw [leads.accounts_eq h.placed hroutine] at hstep
    rw [List.map_append, List.reverse_cons, List.flatMap_append]
    simpa using hheeds.trans hstep

end Deeds

/-! ## Logging in -/

/-- A session without a transfer that has yet to get the lines, and can take each of them. -/
structure Session.Awaits (session : Session) (lines : List Text) : Prop where
  idle : session.isTransferring = false
  isBlank : session.input.IsBlank
  fits : ∀ line ∈ lines, Fits session.input.capacity line

/-- How a client logs in to an account by its lines, through the session of the slot. -/
structure LogsIn (slot : Nat) (id : AccountId) (account : Account) (server : Server) : Prop where
  /-- Once both lines have been served, the session is logged in to the account, exactly if there is
  no padding in front of the name or the password. -/
  accepted : ∀ recent server' session', Sends slot account.lines server recent server' →
    server'.sessions.get? slot = some session' → (reportsIn slot recent).length = 2 →
    (session'.loggedIn? = some id ↔ ∀ credential ∈ account.credentials, credential.IsPlain)
  /-- The client is told so. -/
  replies : ∀ recent server', Sends slot account.lines server recent server' →
    (reportsIn slot recent).length = 2 → (∀ credential ∈ account.credentials, credential.IsPlain) →
    recent.reverse.flatMap (Entry.told slot) =
      [.line 331 "Please specify the password.", .line 230 "Login successful."]
  /-- Once both lines have been received, each pass serves one of them until both have been served,
  unless the client is found to be gone or its time is up. -/
  served : ∀ recent server' listener events result,
    Sends slot account.lines server recent server' → (reportsIn slot recent).length < 2 →
    server'.listener = some listener → Exec server'.runOnce events result →
    ∃ later, Pass server' later result.2 ∧ eventsOf later = events ∧
      ((∃ entry ∈ later, entry.Deserted slot ∨ entry.deed = .expire slot) ∨
        Sends slot account.lines server (later ++ recent) result.2 ∧
          (reportsIn slot (later ++ recent)).length = (reportsIn slot recent).length + 1)

section Login

variable {server server' : Server} {history recent : List Entry} {slot : Nat} {entry : Entry}
  {session session' : Session} {account : Account} {id : AccountId}

theorem Session.Awaits.capacity_pos (h : session.Awaits account.lines) :
    0 < session.input.capacity := by
  have hname := (h.fits _ List.mem_cons_self).length_le
  omega

/-- The lines are served in their order, as credentials that are given. -/
theorem Sends.exists_given (sends : Sends slot account.lines server recent server')
    (h : Reachable history server) (get : server.sessions.get? slot = some session)
    (awaits : session.Awaits account.lines) (get' : server'.sessions.get? slot = some session')
    (hle : (reportsIn slot recent).length ≤ 2) :
    Standing session.input.capacity session'.input (receivedIn slot recent)
        (reportsIn slot recent) ∧
      ∃ given, given <+: account.credentials ∧ reportsIn slot recent = reportsOf given ∧
        Heeds server.accounts session (given.map Credential.heard)
          (recent.reverse.flatMap (Entry.told slot)) session' := by
  have hcapacity := awaits.capacity_pos
  have hblank := h.standing_of_isBlank get awaits.isBlank hcapacity
  have hstanding := sends.leads.standing h sends.stays get get' hcapacity hblank
  rw [List.nil_append, List.nil_append] at hstanding
  have hprefix := hstanding.isPrefix_lines awaits.fits sends.sent hle
  rw [Account.lines, List.map_map] at hprefix
  obtain ⟨given, hgiven, hreports⟩ := List.prefix_map_iff.1 hprefix
  exact ⟨hstanding, given, hgiven, hreports,
    sends.leads.heeds h sends.routine sends.stays get get' awaits.idle hreports⟩

/-- A session is not taken leave of before both lines have been served. -/
theorem Sends.not_dismisses (sends : Sends slot account.lines server recent entry.before)
    (h : Reachable history server) (get : server.sessions.get? slot = some session)
    (awaits : session.Awaits account.lines) (hlt : (reportsIn slot recent).length < 2) :
    ¬ entry.Dismisses slot := by
  rintro ⟨-, before, after, hbefore, hrun⟩
  obtain ⟨hstanding, given, -, -, hheeds⟩ :=
    sends.exists_given h get awaits hbefore (Nat.le_of_lt hlt)
  have hle : (reportsIn slot recent ++ before.input.nextReport.1.toList).length ≤ 2 := by
    rw [List.length_append]
    cases before.input.nextReport.1 <;> simp <;> omega
  have hprefix :=
    (hstanding.nextReport awaits.capacity_pos).isPrefix_lines awaits.fits sends.sent hle
  rw [Account.lines, List.map_map] at hprefix
  obtain ⟨all, -, hall⟩ := List.prefix_map_iff.1 hprefix
  obtain ⟨_, next, -, -, hnext⟩ := List.map_eq_append_iff.1 hall.symm
  obtain ⟨_, -, hstatus, -⟩ := heeds_of_processInput hheeds.idle hnext.symm hrun
  exact hstatus rfl

/-- A pass serves one more of the lines, unless the client is found to be gone or its time is up. -/
theorem Sends.exists_pass {listener : Socket} {events : List Event}
    {result : Except ServerError Unit × Server}
    (sends : Sends slot account.lines server recent server') (h : Reachable history server)
    (get : server.sessions.get? slot = some session) (awaits : session.Awaits account.lines)
    (hlt : (reportsIn slot recent).length < 2) (hlistener : server'.listener = some listener)
    (run : Exec server'.runOnce events result) :
    ∃ later, Pass server' later result.2 ∧ eventsOf later = events ∧
      ((∃ entry ∈ later, entry.Deserted slot ∨ entry.deed = .expire slot) ∨
        Sends slot account.lines server (later ++ recent) result.2 ∧
          (reportsIn slot (later ++ recent)).length = (reportsIn slot recent).length + 1) := by
  have hreachable := h.append sends.leads
  obtain ⟨session', get'⟩ := Option.isSome_iff_exists.1 sends.isSome
  obtain ⟨hstanding, -⟩ := sends.exists_given h get awaits get' (Nat.le_of_lt hlt)
  obtain ⟨later, hpass, hevents, hattends⟩ := exec_runOnce hreachable.placed hlistener run
  refine ⟨later, hpass, hevents, ?_⟩
  rcases hpass.exists_report hreachable (hattends slot sends.isSome) get' awaits.capacity_pos
    awaits.fits hstanding sends.sent hlt with
    hends | ⟨newer, entry, older, rfl, hstays, hreports, hdismisses⟩ | ⟨hstays, hsome, hreports⟩
  · exact .inl hends
  · obtain ⟨-, hroutine⟩ := List.forall_mem_append.1 hpass.isRoutine
    obtain ⟨before, -, hbefore, -⟩ := hdismisses.run
    have holder := sends.append hpass.leads.of_append_cons.1
      (List.forall_mem_cons.1 hroutine).2 hstays (by rw [hbefore]; rfl)
    refine absurd hdismisses (holder.not_dismisses h get awaits ?_)
    rwa [holder.stays.reportsIn_append, hreports, List.append_nil]
  · have hlater := sends.append hpass.leads hpass.isRoutine hstays hsome
    refine .inr ⟨hlater, ?_⟩
    rw [hlater.stays.reportsIn_append, List.length_append, hreports]

theorem Credential.unbroken_line {credential : Credential} (h : Unbroken credential.text) :
    Unbroken credential.line := by
  have hspace : Unbroken (' ' :: credential.text) := h.append_left (s := [' ']) (by decide)
  refine hspace.append_left ?_
  cases credential <;> simp only [Credential.command] <;> decide

/-- A client logs in to an account that has been created by sending two lines in whatever pieces,
exactly if there is no padding in front of the name or the password. -/
theorem logsIn_of_reachable {limits : AccountLimits} {calls : List Account}
    (h : Reachable history server)
    (haccounts : server.accounts = Registry.attempts ⟨limits, []⟩ calls)
    (hid : server.accounts.get? id = some account)
    (hunbroken : ∀ credential ∈ account.credentials, Unbroken credential.text)
    (get : server.sessions.get? slot = some session) (hidle : session.isTransferring = false)
    (hblank : session.input.IsBlank)
    (hroom : ∀ line ∈ account.lines, Utf8.length line + 2 ≤ session.input.capacity) :
    LogsIn slot id account server := by
  have sound : server.accounts.Sound := haccounts ▸ (Registry.Sound.empty limits).attempts calls
  have awaits : session.Awaits account.lines := by
    refine ⟨hidle, hblank, fun line hmem => ⟨?_, hroom line hmem⟩⟩
    obtain ⟨credential, hcredential, rfl⟩ := List.mem_map.1 hmem
    exact Credential.unbroken_line (hunbroken credential hcredential)
  have hall : ∀ recent server' session', Sends slot account.lines server recent server' →
      server'.sessions.get? slot = some session' → (reportsIn slot recent).length = 2 →
      Heeds server.accounts session (account.credentials.map Credential.heard)
        (recent.reverse.flatMap (Entry.told slot)) session' := by
    intro recent server' session' sends get' hlength
    obtain ⟨-, given, hgiven, hreports, hheeds⟩ :=
      sends.exists_given h get awaits get' hlength.le
    rw [hreports, reportsOf, List.length_map] at hlength
    rwa [hgiven.eq_of_length hlength] at hheeds
  refine ⟨fun recent server' session' sends get' hlength => ?_,
    fun recent server' sends hlength hplain => ?_,
    fun recent server' listener events result sends hlt hlistener run =>
      sends.exists_pass h get awaits hlt hlistener run⟩
  · rw [← login_eq_accepted_iff, (hall recent server' session' sends get' hlength).login_eq]
    exact Login.offer_credentials_iff sound hid session.login
  · obtain ⟨session', get'⟩ := Option.isSome_iff_exists.1 sends.isSome
    rw [(hall recent server' session' sends get' hlength).replies_eq]
    exact Login.answers_credentials sound hid hplain session.login

/-- Performs the deeds where a client waits that sends the lines of the account. -/
def Account.called (account : Account) (deeds : List Deed) (server : Server) :
    List Entry × Server :=
  chronicle (calledBy (account.lines.flatMap (· ++ Reply.lineEnd))) deeds [] server { clock := 0 }

/-- A server that holds the account and has admitted the client. -/
def Account.admitted (account : Account) : List Entry × Server :=
  account.called [.start, .register account, .accept]
    (.create {} ⟨Config.accountLimits {}, []⟩)

/-- What happens when its lines have come. -/
def Account.offered (account : Account) : List Entry × Server :=
  account.called [.receive 0, .serve 0, .serve 0] account.admitted.2

theorem reachable_admitted (account : Account) :
    Reachable account.admitted.1 account.admitted.2 :=
  Reachable.of_chronicle _ ⟨{}, _, .nil⟩ _ _

theorem leads_offered (account : Account) :
    Leads account.admitted.2 account.offered.1 account.offered.2 :=
  Leads.nil.of_chronicle _ _ _

/-- An account with spaces within its name, and within and behind its password. -/
def spacedOut : Account :=
  { name := "Ada L", password := "p  q ", root := "/srv/ftp", rights := .all }

theorem logsIn_of_reachable_spacedOut :
    spacedOut.admitted.2.accounts = .attempts ⟨Config.accountLimits {}, []⟩ [spacedOut] ∧
      LogsIn 0 ⟨0⟩ spacedOut spacedOut.admitted.2 ∧
      Sends 0 spacedOut.lines spacedOut.admitted.2 spacedOut.offered.1 spacedOut.offered.2 ∧
      (spacedOut.offered.2.sessions.get? 0).bind Session.loggedIn? = some ⟨0⟩ ∧
      (spacedOut.offered.1.reverse.flatMap (Entry.told 0)).map Reply.code = [331, 230] := by
  have haccounts : spacedOut.admitted.2.accounts =
      .attempts ⟨Config.accountLimits {}, []⟩ [spacedOut] := by decide +kernel
  have hready : ∀ session ∈ spacedOut.admitted.2.sessions.get? 0,
      session.isTransferring = false ∧ session.input.bytes = [] ∧
        session.input.skipping = false ∧
        ∀ line ∈ spacedOut.lines, Utf8.length line + 2 ≤ session.input.capacity := by
    decide +kernel
  obtain ⟨session, get⟩ : ∃ session, spacedOut.admitted.2.sessions.get? 0 = some session :=
    Option.isSome_iff_exists.1 (by decide +kernel)
  obtain ⟨hidle, hbytes, hkeeps, hroom⟩ := hready session get
  have hlogs : LogsIn 0 ⟨0⟩ spacedOut spacedOut.admitted.2 :=
    logsIn_of_reachable (reachable_admitted _) haccounts (by decide +kernel)
      (by unfold Unbroken; decide +kernel) get hidle ⟨hbytes, hkeeps⟩ hroom
  have hsends : Sends 0 spacedOut.lines spacedOut.admitted.2 spacedOut.offered.1
      spacedOut.offered.2 :=
    ⟨leads_offered _, by decide +kernel, by unfold Stays; decide +kernel, by decide +kernel,
      by decide +kernel⟩
  have hplain : ∀ credential ∈ spacedOut.credentials, credential.IsPlain := by
    simp only [← Credential.heard_eq_self_iff]
    decide +kernel
  have hserved : (reportsIn 0 spacedOut.offered.1).length = 2 := by decide +kernel
  obtain ⟨session', get'⟩ := Option.isSome_iff_exists.1 hsends.isSome
  refine ⟨haccounts, hlogs, hsends, ?_, ?_⟩
  · rw [get', Option.bind_some]
    exact (hlogs.accepted _ _ session' hsends get' hserved).2 hplain
  · rw [hlogs.replies _ _ hsends hserved hplain]
    rfl

/-- An account with a space in front of its name. -/
def indented : Account :=
  { name := " ada", password := "x", root := "/srv/ftp", rights := .all }

/-- It has been created, and both of its lines are served, but nobody is logged in. -/
theorem indented_lockedOut :
    indented.admitted.2.accounts = .attempts ⟨Config.accountLimits {}, []⟩ [indented] ∧
      indented.admitted.2.accounts.get? ⟨0⟩ = some indented ∧
      (∀ credential ∈ indented.credentials, Unbroken credential.text) ∧
      (∃ session, indented.admitted.2.sessions.get? 0 = some session ∧
        session.isTransferring = false ∧ session.input.IsBlank ∧
        ∀ line ∈ indented.lines, Utf8.length line + 2 ≤ session.input.capacity) ∧
      Sends 0 indented.lines indented.admitted.2 indented.offered.1 indented.offered.2 ∧
      reportsIn 0 indented.offered.1 = [.line "USER  ada".toList, .line "PASS x".toList] ∧
      (indented.offered.2.sessions.get? 0).map Session.loggedIn? = some none ∧
      (indented.offered.1.reverse.flatMap (Entry.told 0)).map Reply.code = [331, 530] := by
  have hready : ∀ session ∈ indented.admitted.2.sessions.get? 0,
      session.isTransferring = false ∧ session.input.bytes = [] ∧
        session.input.skipping = false ∧
        ∀ line ∈ indented.lines, Utf8.length line + 2 ≤ session.input.capacity := by
    decide +kernel
  obtain ⟨session, get⟩ : ∃ session, indented.admitted.2.sessions.get? 0 = some session :=
    Option.isSome_iff_exists.1 (by decide +kernel)
  obtain ⟨hidle, hbytes, hkeeps, hroom⟩ := hready session get
  refine ⟨by decide +kernel, by decide +kernel, by unfold Unbroken; decide +kernel,
    ⟨session, get, hidle, ⟨hbytes, hkeeps⟩, hroom⟩, ⟨leads_offered _, ?_, ?_, ?_, ?_⟩,
    by decide +kernel, by decide +kernel, by decide +kernel⟩
  · decide +kernel
  · unfold Stays
    decide +kernel
  · decide +kernel
  · decide +kernel

end Login

end Ftp
