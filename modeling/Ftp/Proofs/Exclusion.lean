import Ftp.Proofs.Conduct
import Ftp.Proofs.Tally

/-!
# One transfer at a time

While a session has a transfer, nothing that its client says touches the transfer or the session,
except to end the one or the other. So no transfer ever finds another one in its way.

* `LineRun.quiet`: a line during a transfer that neither gives it up nor ends the session;
* `exclusive_of_reachable`: so it is in every session of a server, whatever has happened to it.
-/

namespace Ftp

open Program

section Lines

variable {setting : Setting} {session : Session} {raw : Text} {events : List Event}
  {result : Status × Session}

/-- The line names neither of the commands that are heard during a transfer. -/
def IsBystander (setting : Setting) (raw : Text) : Prop :=
  ∀ command, Command.find? (Command.upperVerb raw) setting.config.extensions = some command →
    command ≠ .quit ∧ command ≠ .abor

/-- At most the client is answered and the clock looked at. -/
def IsAside (control : Socket) (event : Event) : Prop :=
  (∃ reply, event.request = .reply control reply) ∨ event.request = .unixTime

theorem isAside_of_mem_said {control : Socket} {code : Nat} {text : Text} {event : Event}
    (h : event ∈ [said control code text]) : IsAside control event :=
  .inl ⟨_, congrArg Event.request (List.mem_singleton.1 h)⟩

theorem isAside_of_mem_clock {control : Socket} {now : Int} {event : Event}
    (h : event ∈ [(⟨.unixTime, now⟩ : Event)]) : IsAside control event :=
  .inr (congrArg Event.request (List.mem_singleton.1 h))

/-- During a transfer a line that is not meant for it leaves everything as it is. -/
theorem LineRun.quiet (h : LineRun setting session raw events result)
    (bystander : IsBystander setting raw) :
    (∃ now, result.2 = { session with lastCommand := now }) ∧ result.1 ≠ .close ∧
      ∀ event ∈ events, IsAside session.control event := by
  cases h with
  | unknown _ now =>
    refine ⟨⟨now, rfl⟩, fun h => (nomatch h), fun event hmem => ?_⟩
    rw [← List.singleton_append] at hmem
    exact (List.mem_append.1 hmem).elim isAside_of_mem_said isAside_of_mem_clock
  | notLoggedIn | denied =>
    exact ⟨⟨session.lastCommand, rfl⟩, fun h => (nomatch h), fun _ => isAside_of_mem_said⟩
  | ignored =>
    exact ⟨⟨session.lastCommand, rfl⟩, fun h => (nomatch h), fun event hmem => by cases hmem⟩
  | abor find => exact absurd rfl (bystander _ find).2
  | quit find => exact absurd rfl (bystander _ find).1

end Lines

/-! ## The reply that is never given -/

/-- What the client would be told of a second transfer. -/
def Reply.busy : Reply :=
  .line 450 "Transfer already in progress."

theorem ne_busy_of_mem_phrases {code : Nat} {text : String} (h : (code, text) ∈ phrases) :
    Reply.line code text ≠ .busy := by
  have hphrases : (450, "Transfer already in progress.") ∉ phrases := by simp [phrases]
  intro heq
  injection heq with hcode htext
  rw [hcode, String.toList_injective htext] at h
  exact hphrases h

theorem Says.ne_busy {setting : Setting} {session : Session} {argument : Text} {reply : Reply}
    (h : Says setting session argument reply) : reply ≠ .busy := by
  cases h with
  | phrase h => exact ne_busy_of_mem_phrases h
  | _ => simp [Reply.busy]

theorem Answers.ne_busy {setting : Setting} {session : Session} {raw : Text} {reply : Reply}
    (h : Answers setting session raw reply) : reply ≠ .busy := by
  cases h with
  | phrase h => exact ne_busy_of_mem_phrases h
  | echo => simp [Reply.busy]
  | command _ _ voiced => exact voiced.ne_busy

theorem Server.Tells.ne_busy {server : Server} {deed : Deed} {reply : Reply}
    (h : server.Tells deed reply) : reply ≠ .busy := by
  cases h with
  | phrase h => exact ne_busy_of_mem_phrases h
  | timeout => simp [Reply.busy]
  | line _ _ _ answers => exact answers.ne_busy

/-! ## Over a history -/

section Histories

variable {history : List Entry} {server : Server}

/-- No session of a server has ever had, or can ever get, two transfers. -/
structure Exclusive (history : List Entry) (server : Server) : Prop where
  /-- Only a session that is logged in has a transfer. -/
  isLoggedIn : ∀ session ∈ server.sessions.sessions, session.isTransferring = true →
    session.isLoggedIn = true
  /-- A line that is not meant for the transfer is answered or not heard, and changes nothing but
  the time at which the session was last active. -/
  undisturbed : ∀ session ∈ server.sessions.sessions, session.isTransferring = true →
    ∀ input raw, IsBystander server.setting raw → ∀ events status session',
      Exec (Dispatch.dispatch server.setting { session with input } raw) events
        (status, session') →
      (∃ now, session' = { session with input, lastCommand := now }) ∧ status ≠ .close ∧
        ∀ event ∈ events, IsAside session.control event
  /-- A command that may run and begins a transfer finds none. -/
  starts : ∀ session ∈ server.sessions.sessions, ∀ command : Command,
    Dispatch.verdict server.setting session command = .run → command.transferMode?.isSome = true →
    ∀ transmission,
      Transfer.start session transmission = .ok { session with transmission }
  /-- No transfer has ever found another one, which the client would have been told. -/
  neverBusy : ∀ event ∈ eventsOf history, ∀ control, event.request ≠ .reply control .busy

theorem start_of_verdict {setting : Setting} {session : Session} {command : Command}
    (hverdict : Dispatch.verdict setting session command = .run)
    (hmode : command.transferMode?.isSome = true) (transmission : Transmission) :
    Transfer.start session transmission = .ok { session with transmission } := by
  have hduring : command.duringTransfer = false := by
    cases command <;> first | rfl | cases hmode
  rw [Transfer.start, isTransferring_of_verdict hverdict hduring]
  rfl

theorem exclusive_of_reachable (h : Reachable history server) : Exclusive history server where
  isLoggedIn session hmem hactive := by
    obtain ⟨slot, hget⟩ := SessionTable.mem_sessions_iff.1 hmem
    exact h.isLoggedIn hget hactive
  undisturbed session hmem hactive input raw bystander events status session' run := by
    have hline := @exec_dispatch_transferring _ { session with input } _ _ _ hactive run
    exact hline.quiet bystander
  starts session hmem command hverdict hmode transmission :=
    start_of_verdict hverdict hmode transmission
  neverBusy event hmem control hbusy := by
    obtain ⟨newer, entry, older, rfl, hevent⟩ := exists_entry_of_mem hmem
    exact (h.tells event hevent control .busy (by rw [hbusy]; rfl)).ne_busy rfl

/-- A client with a download says `HI`, and begins a second download once it has given up the
first. -/
theorem exclusive_of_reachable_secondDownload :
    Reachable secondDownload.1 secondDownload.2 ∧
      secondDownload.2.sessions.sessions.map Session.isTransferring = [true] ∧
      Exclusive secondDownload.1 secondDownload.2 := by
  have hreachable : Reachable secondDownload.1 secondDownload.2 := reachable_visit _ _ _ _ _
  exact ⟨hreachable, by decide +kernel, exclusive_of_reachable hreachable⟩

end Histories

end Ftp
