import Mathlib.Algebra.GroupWithZero.Nat
import Ftp.Proofs.Replies

/-!
# The tally of replies

Over the life of a session every transfer and every listing that has been announced to it comes to
its end with one reply, but for the transfer that is going on.

* `balanced_entry`: the replies of one deed account for what becomes of the session;
* `Reachable.announcedIn_eq`: the replies over the life of a session;
* `replies_of_reachable`: what every session of every server has been told, and will be told next.
-/

namespace Ftp

open Program

/-- What the session of the slot is told in an entry. -/
def Entry.told (slot : Nat) (entry : Entry) : List Reply :=
  if entry.deed.slot? = some slot then (repliesIn entry.events).map Prod.snd else []

/-- A transfer of the session of the slot is going on when the entry begins. -/
def Entry.startsActive (slot : Nat) (entry : Entry) : Bool :=
  (entry.before.sessions.get? slot).any Session.isTransferring

/-- The number of replies by which it is told that something has come to its end that has been
announced: before them, if a transfer was going on, or among them. -/
def conclusions (active : Bool) (replies : List Reply) : Nat :=
  (if active then replies else replies.dropWhile (!·.announces)).countP Reply.concludes

/-- The announcements that the session of the slot has got since its admission. -/
def announcedIn (slot : Nat) (history : List Entry) : Nat :=
  ((lifetime slot history).map fun entry => (entry.told slot).countP Reply.announces).sum

/-- The conclusions that the session of the slot has got since its admission. -/
def concludedIn (slot : Nat) (history : List Entry) : Nat :=
  ((lifetime slot history).map fun entry =>
    conclusions (entry.startsActive slot) (entry.told slot)).sum

/-- What is announced or was going on before is concluded or goes on afterwards. -/
def Balanced (before : Bool) (replies : List Reply) (after : Bool) : Prop :=
  replies.countP Reply.announces + before.toNat = conclusions before replies + after.toNat

section Balance

variable {setting : Setting} {session : Session} {replies : List Reply}

theorem announces_of_concludes {reply : Reply} (h : reply.concludes = true) :
    reply.announces = false := by
  have hmem : reply.code ∈ [226, 426, 451] := of_decide_eq_true h
  simp only [List.mem_cons, List.not_mem_nil, or_false] at hmem
  simp only [Reply.announces, decide_eq_false_iff_not]
  omega

theorem concludes_of_announces {reply : Reply} (h : reply.announces = true) :
    reply.concludes = false := by
  cases hconcludes : reply.concludes with
  | false => rfl
  | true => rw [announces_of_concludes hconcludes] at h; cases h

theorem balanced_nil (active : Bool) : Balanced active [] active := by
  cases active <;> rfl

/-- A reply that has nothing to do with a transfer. -/
theorem balanced_aside (active : Bool) (reply : Reply) (hannounces : reply.announces = false)
    (hconcludes : reply.concludes = false) : Balanced active [reply] active := by
  cases active <;> simp [Balanced, conclusions, hannounces, hconcludes]

theorem balanced_concluded {reply : Reply} (h : reply.concludes = true) :
    Balanced true [reply] false := by
  simp [Balanced, conclusions, h, announces_of_concludes h]

theorem Answered.balanced {transmission : Transmission} (h : Answered replies transmission) :
    Balanced false replies transmission.isActive := by
  cases h with
  | @final reply hcode =>
    have hannounces : reply.announces = false := by
      simp only [Reply.announces, decide_eq_false_iff_not]
      omega
    simp [Balanced, conclusions, hannounces, Transmission.isActive]
  | concluded hfirst hlast =>
    simp [Balanced, conclusions, hfirst, hlast, concludes_of_announces hfirst,
      announces_of_concludes hlast, Transmission.isActive]
  | begun hfirst hactive =>
    simp [Balanced, conclusions, hfirst, concludes_of_announces hfirst, hactive]

theorem StepAnswered.balanced {outcome : StepOutcome} {transmission : Transmission}
    (h : StepAnswered outcome replies transmission) :
    Balanced true replies transmission.isActive := by
  cases h with
  | pending hactive => rw [hactive]; exact balanced_nil true
  | finished hconcludes => exact balanced_concluded hconcludes

theorem Interjected.balanced {raw : Text} {result : Status × Session}
    (hactive : session.isTransferring = true) (h : Interjected setting session raw replies result) :
    Balanced true replies result.2.isTransferring := by
  unfold Session.isTransferring at hactive ⊢
  cases h with
  | unknown _ same | quit _ same =>
    rw [same, hactive]
    exact balanced_aside true _ rfl rfl
  | denied => rw [hactive]; exact balanced_aside true _ rfl rfl
  | ignored => rw [hactive]; exact balanced_nil true
  | abor _ idle => rw [idle]; exact balanced_concluded rfl

/-- Whatever line is served, or none, the replies account for the transfer. -/
theorem tells_processInput
    (hlogin : session.isTransferring = true → session.isLoggedIn = true) :
    (Dispatch.processInput setting session).Tells session.control fun replies result =>
      Balanced session.isTransferring replies result.2.isTransferring := by
  unfold Dispatch.processInput
  cases session.input.nextLine? with
  | none =>
    simp only []
    split
    · have htold := balanced_aside session.isTransferring (.line 500 "Line too long.") rfl rfl
      exact ((plays_say _ 500 _).map _).tells rfl htold
    · exact tells_done _ (balanced_nil _)
  | some next =>
    obtain ⟨line, input⟩ := next
    have hsame : ({ session with input } : Session).isTransferring = session.isTransferring := rfl
    cases hactive : session.isTransferring with
    | false =>
      exact (tells_dispatch (hsame.trans hactive) line).mono fun _ _ h => h.balanced
    | true =>
      have hdispatch : (Dispatch.dispatch setting { session with input } line).Tells
          session.control (Interjected setting { session with input } line) :=
        tells_dispatch_transferring (hsame.trans hactive) (hlogin hactive) line
      exact hdispatch.mono fun _ _ h => h.balanced (hsame.trans hactive)

end Balance

section Histories

variable {history : List Entry} {server server' : Server} {slot : Nat} {session session' : Session}

/-- While a transfer is going on nobody logs in or out. -/
theorem Change.isLoggedIn {setting : Setting} {argument : Text} {command : Command}
    (h : Change setting session argument command session')
    (verdict : Dispatch.verdict setting session command = .run)
    (hsession : session.isTransferring = true → session.isLoggedIn = true) :
    session'.isTransferring = true → session'.isLoggedIn = true := by
  have hbefore : command.needsLogin = true → session.isLoggedIn = true :=
    isLoggedIn_of_verdict verdict
  have hidle : command.duringTransfer = false → session.isTransferring = false :=
    isTransferring_of_verdict verdict
  cases h with
  | user | login | refused =>
    intro hactive
    exact absurd (hactive.symm.trans (hidle rfl)) (by decide)
  | abor => exact fun hactive => by cases hactive
  | retr | stor => exact fun _ => hbefore rfl
  | _ => exact hsession

theorem Transmission.Advances.isActive {transmission transmission' : Transmission}
    (h : transmission.Advances transmission') (hactive : transmission'.isActive = true) :
    transmission.isActive = true := by
  cases h with
  | same => exact hactive
  | remaining => rfl
  | ended => cases hactive

theorem Becomes.isLoggedIn {setting : Setting} {deed : Deed}
    (h : Becomes setting session deed session')
    (hsession : session.isTransferring = true → session.isLoggedIn = true) :
    session'.isTransferring = true → session'.isLoggedIn = true := by
  cases h with
  | kept | received => exact hsession
  | advanced hadvances => exact fun hactive => hsession (hadvances.isActive hactive)
  | heard h =>
    cases h with
    | quiet => exact hsession
    | line _ hserved =>
      cases hserved with
      | refused | unknown => exact hsession
      | run _ verdict change => exact change.isLoggedIn verdict hsession

/-- Only a session that is logged in has a transfer. -/
theorem Reachable.isLoggedIn (h : Reachable history server)
    (get : server.sessions.get? slot = some session) :
    session.isTransferring = true → session.isLoggedIn = true :=
  h.lifetime_induction (P := fun _ session =>
      session.isTransferring = true → session.isLoggedIn = true)
    (fun _ _ _ _ hactive => by cases hactive)
    (fun _ ih _ _ _ hbecomes => hbecomes.isLoggedIn ih) get

theorem silent_receive (setting : Setting) (session : Session) :
    (Server.receive setting session).Silent := by
  simp only [Server.receive]
  split
  · exact silent_done _
  · refine silent_request rfl fun received => ?_
    cases received with
    | ok chunk =>
      simp only []
      split <;> exact silent_done _
    | error error =>
      simp only []
      split <;> exact silent_done _

/-- A step of the session, if it has a transfer. -/
theorem tells_step_any (setting : Setting) (session : Session) :
    (Transfer.step setting session).Tells session.control fun replies result =>
      Balanced session.isTransferring replies result.2.isTransferring := by
  cases hactive : session.isTransferring with
  | true => exact (tells_step hactive).mono fun _ _ h => h.balanced
  | false =>
    rintro events ⟨outcome, session'⟩ run
    obtain ⟨now, rfl, rfl⟩ := exec_step_idle hactive run
    refine ⟨[], rfl, ?_⟩
    change Balanced false [] session.isTransferring
    rw [hactive]
    exact balanced_nil false

/-- What is said in a deed about the session is what it is told. -/
theorem told_of_tells (server : Server) {deed : Deed} {events : List Event} {α : Type}
    {program : Program α} {value : α} {control : Socket} {post : List Reply → α → Prop}
    (hdeed : deed.slot? = some slot) (h : program.Tells control post)
    (run : Exec program events value) :
    repliesIn events = (Entry.told slot ⟨server, deed, events⟩).map (control, ·) ∧
      post (Entry.told slot ⟨server, deed, events⟩) value := by
  obtain ⟨replies, hreplies, hpost⟩ := h events value run
  have hcopy : (replies.map fun reply => (control, reply)).map Prod.snd = replies := by
    rw [List.map_map]
    exact List.map_id replies
  rw [Entry.told, if_pos hdeed, hreplies, hcopy]
  exact ⟨rfl, hpost⟩

/-- In each deed that a session lives through, the replies account for its transfer. -/
theorem balanced_entry {deed : Deed} {events : List Event} (placed : server.sessions.Placed)
    (hlogin : session.isTransferring = true → session.isLoggedIn = true)
    (get : server.sessions.get? slot = some session)
    (run : Exec (server.perform deed) events server')
    (get' : server'.sessions.get? slot = some session')
    (hbecomes : Becomes server.setting session deed session') :
    Balanced session.isTransferring (Entry.told slot ⟨server, deed, events⟩)
      session'.isTransferring := by
  have hslot := placed slot session get
  by_cases hdeed : deed.slot? = some slot
  · cases deed with
    | start | register | poll | accept | readClock | unlisten => cases hdeed
    | advance =>
      cases hdeed
      obtain ⟨outcome, after, hstep, hget⟩ := exec_advance placed get run
      rw [hget] at get'
      cases get'
      have hslot : (Deed.advance slot).slot? = some slot := rfl
      exact (told_of_tells server hslot (tells_step_any server.setting session) hstep).2
    | receive =>
      cases hdeed
      obtain ⟨alive, after, hreceive, hget⟩ := exec_receive placed get run
      rw [hget] at get'
      cases get'
      have hslot : (Deed.receive slot).slot? = some slot := rfl
      obtain ⟨-, hsilent⟩ := told_of_tells server hslot
        (silent_receive server.setting session session.control) hreceive
      obtain ⟨input, hafter⟩ := (returns_receive server.setting session).of_exec hreceive
      rw [hsilent, show session' = _ from hafter]
      exact balanced_nil _
    | serve =>
      cases hdeed
      obtain ⟨status, after, hserve, hget⟩ := exec_serve placed get run
      rw [hget] at get'
      cases get'
      have hslot : (Deed.serve slot).slot? = some slot := rfl
      exact (told_of_tells server hslot (tells_processInput hlogin) hserve).2
    | close =>
      cases hdeed
      rw [get?_of_close (.inl rfl) run] at get'
      cases get'
    | expire =>
      cases hdeed
      rw [get?_of_close (.inr rfl) run] at get'
      cases get'
  · have hsame := hbecomes.transmission_eq (hslot.symm ▸ hdeed)
    rw [Entry.told, if_neg hdeed, Session.isTransferring, Session.isTransferring, hsame]
    exact balanced_nil _

/-- Of all that has been announced to a session, only the transfer that is going on has not come to
its end. -/
theorem Reachable.announcedIn_eq (h : Reachable history server)
    (get : server.sessions.get? slot = some session) :
    announcedIn slot history = concludedIn slot history + session.isTransferring.toNat := by
  refine h.lifetime_induction
    (P := fun life session =>
      (life.map fun entry => (entry.told slot).countP Reply.announces).sum =
        (life.map fun entry => conclusions (entry.startsActive slot) (entry.told slot)).sum +
          session.isTransferring.toNat)
    (fun _ _ _ _ => rfl) ?_ get
  intro older entry session session' server' hreachable ih hget run get' hbecomes
  have hbalanced : Balanced session.isTransferring (entry.told slot) session'.isTransferring :=
    balanced_entry hreachable.placed (hreachable.isLoggedIn hget) hget run get' hbecomes
  have hactive : entry.startsActive slot = session.isTransferring := by
    rw [Entry.startsActive, hget]
    rfl
  unfold Balanced at hbalanced
  simp only [List.map_cons, List.sum_cons, hactive]
  omega

theorem returns_dispatch_quit {setting : Setting} {raw : Text}
    (find : Command.find? (Command.upperVerb raw) setting.config.extensions = some .quit) :
    (Dispatch.dispatch setting session raw).Returns fun result => result.1 = .close := by
  have hverdict : Dispatch.verdict setting session .quit = .run := by
    simp [Dispatch.verdict, Dispatch.access, Command.needsLogin, Command.duringTransfer]
  unfold Dispatch.dispatch
  simp only [find, hverdict, returns_bind, Command.run, Action.quit, returns_say]
  exact returns_of_forall (fun _ => rfl) _

/-- A client that takes leave is gone once its line has been served. -/
theorem returns_serveLine_quit {setting : Setting} {raw : Text} {rest : LineBuffer}
    (next : session.input.nextLine? = some (raw, rest))
    (find : Command.find? (Command.upperVerb raw) setting.config.extensions = some .quit)
    (table : SessionTable) :
    (Server.serveLine setting session table).Returns fun table' =>
      table'.get? session.slot = none := by
  have hquit : (Dispatch.processInput setting session).Returns fun result => result.1 = .close := by
    simp only [Dispatch.processInput, next]
    exact returns_dispatch_quit find
  unfold Server.serveLine
  rw [returns_bind]
  refine (Safe.and_returns hquit (returns_processInput setting session)).mono ?_
  rintro ⟨status, session'⟩ _ ⟨rfl, hheard⟩
  refine (returns_closeSlot _ _).mono ?_
  rintro _ rfl
  have hslot : session'.slot = session.slot := hheard.sameClient.slot
  rw [← hslot, SessionTable.get?_erase_self]

/-- What a session has been told, and will be told next. -/
structure RepliesAccounted (history : List Entry) (slot : Nat) (setting : Setting)
    (session : Session) : Prop where
  /-- Without a transfer every line is answered, and may begin one. -/
  idle : session.isTransferring = false → ∀ input raw,
    (Dispatch.dispatch setting { session with input } raw).Tells session.control
      fun replies result => Answered replies result.2.transmission
  transferring : session.isTransferring = true → ∀ input raw,
    (Dispatch.dispatch setting { session with input } raw).Tells session.control
      (Interjected setting { session with input } raw)
  /-- Silence and a refusal exclude each other, and so does everything else that may be sent. -/
  settled : ∀ input raw replies replies' result result',
    Interjected setting { session with input } raw replies result →
    Interjected setting { session with input } raw replies' result' → replies = replies'
  quit : ∀ input raw rest, input.nextLine? = some (raw, rest) →
    Command.find? (Command.upperVerb raw) setting.config.extensions = some .quit →
    ∀ table, (Server.serveLine setting { session with input } table).Returns fun table' =>
      table'.get? session.slot = none
  step : session.isTransferring = true →
    (Transfer.step setting session).Tells session.control fun replies result =>
      StepAnswered result.1 replies result.2.transmission
  tally : announcedIn slot history = concludedIn slot history + session.isTransferring.toNat

/-- Whatever has happened to a server, each of its sessions has been told of everything exactly
once. -/
theorem replies_of_reachable (h : Reachable history server)
    (get : server.sessions.get? slot = some session) :
    RepliesAccounted history slot server.setting session where
  idle hidle input raw := @tells_dispatch _ { session with input } hidle raw
  transferring hactive input raw :=
    have hlogin := h.isLoggedIn get hactive
    @tells_dispatch_transferring _ { session with input } hactive hlogin raw
  settled _ _ _ _ _ _ := Interjected.replies_eq
  quit input _ _ next find table :=
    @returns_serveLine_quit { session with input } _ _ _ next find table
  step hactive := tells_step hactive
  tally := h.announcedIn_eq get

/-- A client gives a download up, and begins another. -/
def secondDownload : List Entry × Server :=
  visit {} { name := "ada", password := [], root := "/srv/ftp", rights := .all }
    { nodes := [("/srv/ftp/f".toList,
        { kind := .file, data := [1, 2, 3], statedSize := some 9000, modified := .ofUnix 0 })] }
    "USER ada\r\nPASS x\r\nPORT 127,0,0,1,19,137\r\nRETR f\r\nHI\r\nABOR\r\nRETR f\r\n".toList
    (List.replicate 7 (.serve 0))

theorem replies_of_reachable_secondDownload :
    ∃ session, Reachable secondDownload.1 secondDownload.2 ∧
      secondDownload.2.sessions.get? 0 = some session ∧ session.isTransferring = true ∧
      announcedIn 0 secondDownload.1 = 2 ∧ concludedIn 0 secondDownload.1 = 1 ∧
      RepliesAccounted secondDownload.1 0 secondDownload.2.setting session := by
  have hreachable : Reachable secondDownload.1 secondDownload.2 := reachable_visit _ _ _ _ _
  have hget : (secondDownload.2.sessions.get? 0).map Session.isTransferring = some true := by
    decide +kernel
  obtain ⟨session, hsession, hactive⟩ := Option.map_eq_some_iff.1 hget
  exact ⟨session, hreachable, hsession, hactive, by decide +kernel, by decide +kernel,
    replies_of_reachable hreachable hsession⟩

end Histories

end Ftp
