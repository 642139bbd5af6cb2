import Ftp.Proofs.Hearing

/-!
# When a client closes its end

The lines that a session has received are those that it has been served and, behind them, those that
still stand in its input. A pass that finds that the client has closed its end closes the session at
once. What stands in the input then is never served: a client whose lines arrive together and that
closes its end right behind them is served only some of them.

* `Standing.split_eq`: the lines that have been reported and those that are left;
* `ClosesAfter`: how a pass goes on once it has found that a client is gone;
* `linesKept_of_reachable`: what becomes of the lines that have been received;
* `hangingUp_unserved`: lines that are never served.
-/

namespace Ftp

open Program LineBuffer

/-- The reports of the bytes that a buffer has taken are those that have been made and those of the
bytes that it still holds. -/
theorem LineBuffer.Standing.split_eq {capacity : Nat} {buffer : LineBuffer} {taken : List UInt8}
    {reports : List Report} (hcapacity : 0 < capacity)
    (h : Standing capacity buffer taken reports) :
    split capacity taken = reports ++ split capacity buffer.bytes := by
  cases h with
  | collecting hlines _ =>
    rw [split, lines_ends hlines, List.map_append, List.append_assoc]
    rfl
  | skipping hlines hpart hlength =>
    have hempty : split capacity [] = [] := by
      simp only [split, lines, List.map_nil, List.length_nil, List.nil_append]
      exact if_neg (by omega)
    rw [split_ends hlines hpart, if_pos hlength, hempty, List.append_nil]

/-! ## Passes -/

/-- A session whose connection is found to be gone is closed in the next deed. -/
def ClosesAfter (recent : List Entry) : Prop :=
  ∀ newer entry older slot, recent = newer ++ entry :: older → entry.Deserted slot →
    ∃ rest last, newer = rest ++ [last] ∧ last.deed = .close slot

section Passes

variable {server server' : Server} {recent later : List Entry} {slot : Nat} {slots : List Nat}

theorem closesAfter_of_forall (h : ∀ entry ∈ recent, ∀ slot, ¬ entry.Deserted slot) :
    ClosesAfter recent := by
  rintro newer entry older slot rfl hdeserted
  exact absurd hdeserted (h entry (by simp) slot)

theorem ClosesAfter.append (h : ClosesAfter later) (h' : ClosesAfter recent) :
    ClosesAfter (later ++ recent) := by
  intro newer entry older slot heq hdeserted
  rcases List.append_eq_append_iff.1 heq with ⟨middle, hnewer, hrecent⟩ | ⟨middle, hlater, hrest⟩
  · obtain ⟨rest, last, rfl, hlast⟩ := h' middle entry older slot hrecent hdeserted
    exact ⟨later ++ rest, last, by rw [hnewer, List.append_assoc], hlast⟩
  · cases middle with
    | nil =>
      obtain ⟨rest, last, hnil, -⟩ := h' [] entry older slot hrest.symm hdeserted
      simp at hnil
    | cons first middle =>
      rw [List.cons_append, List.cons.injEq] at hrest
      obtain ⟨rfl, -⟩ := hrest
      exact h newer entry middle slot hlater hdeserted

theorem not_deserted_of_deed {entry : Entry} {deed : Deed} (hdeed : entry.deed = deed)
    (hne : ∀ slot, deed ≠ .receive slot) (slot : Nat) : ¬ entry.Deserted slot :=
  fun h => hne slot (hdeed.symm.trans h.deed)

theorem Each.closesAfter {deed : Nat → Deed} (h : Each deed slots recent)
    (hne : ∀ slot other, deed slot ≠ .receive other) : ClosesAfter recent := by
  refine closesAfter_of_forall fun entry hmem other => ?_
  obtain ⟨slot, hdeed⟩ := h.exists_slot entry hmem
  exact not_deserted_of_deed hdeed (hne slot) other

theorem closesAfter_single {entry : Entry} {deed : Deed} (hdeed : entry.deed = deed)
    (hne : ∀ slot, deed ≠ .receive slot) : ClosesAfter [entry] :=
  closesAfter_of_forall (List.forall_mem_singleton.2 (not_deserted_of_deed hdeed hne))

theorem Attended.closesAfter (h : Attended slot recent) : ClosesAfter recent := by
  cases h with
  | kept deed => exact closesAfter_single deed fun _ => nofun
  | @dismissed entry last deed closes =>
    exact @ClosesAfter.append [entry] [last] (closesAfter_single closes fun _ => nofun)
      (closesAfter_single deed fun _ => nofun)

theorem Turn.closesAfter (h : Turn slot recent) : ClosesAfter recent := by
  cases h with
  | absent => exact closesAfter_of_forall fun _ hmem => by cases hmem
  | calm attended => exact attended.closesAfter
  | heard deed flows attended =>
    refine attended.closesAfter.append (closesAfter_of_forall ?_)
    refine List.forall_mem_singleton.2 fun other hdeserted => ?_
    obtain ⟨event, hmem, hbreaks⟩ := hdeserted.breaks
    rw [flows event hmem] at hbreaks
    cases hbreaks
  | @gone entry last deed breaks closes =>
    rintro newer entry' older other heq hdeserted
    rcases newer with - | ⟨first, newer⟩
    · rw [List.nil_append, List.cons.injEq] at heq
      rw [← heq.1] at hdeserted
      exact absurd hdeserted (not_deserted_of_deed closes (fun _ => nofun) other)
    · rw [List.cons_append, List.cons.injEq] at heq
      obtain ⟨rfl, heq⟩ := heq
      rcases newer with - | ⟨second, newer⟩
      · rw [List.nil_append, List.cons.injEq] at heq
        rw [← heq.1] at hdeserted
        cases deed.symm.trans hdeserted.deed
        exact ⟨[], last, rfl, closes⟩
      · simp at heq

theorem Turns.closesAfter (h : Turns slots recent) : ClosesAfter recent := by
  induction h with
  | nil => exact closesAfter_of_forall fun _ hmem => by cases hmem
  | cons turn _ ih => exact ih.append turn.closesAfter

/-- In a pass a session is closed as soon as its connection is found to be gone. -/
theorem Pass.closesAfter (h : Pass server recent server') : ClosesAfter recent := by
  obtain ⟨hsteps, hpoll, hadmissions, -, hturns, hclock, hdepartures⟩ := h.stages
  rename_i steps admissions turns departures poll clock slots idle
  have hadmitted : ClosesAfter admissions := by
    rcases hadmissions with rfl | ⟨entry, rfl, hdeed⟩
    · exact closesAfter_of_forall fun _ hmem => by cases hmem
    · exact closesAfter_single hdeed fun _ => nofun
  have hsteps := hsteps.closesAfter fun _ _ => nofun
  have hpoll := closesAfter_single hpoll fun _ => nofun
  have hclock := closesAfter_single hclock fun _ => nofun
  have hdepartures := hdepartures.closesAfter fun _ _ => nofun
  have hall := hdepartures.append (hclock.append (hturns.closesAfter.append
    (hadmitted.append (hpoll.append hsteps))))
  simpa using hall

end Passes

/-! ## The lines that have been received -/

/-- What becomes of the lines that the session of the slot has received, once its connection is
found to be gone. -/
structure Forsaken (slot : Nat) (past : List Entry) (entry : Entry) (newer : List Entry) :
    Prop where
  /-- The session is closed in the next deed. -/
  closed : ∃ rest last, newer = rest ++ [last] ∧ last.deed = .close slot
  /-- Behind the lines that have been served there stand those of the input. -/
  unserved : ∀ session, entry.before.sessions.get? slot = some session →
    split entry.before.config.lineBufferSize.toNat (receivedIn slot (entry :: past)) =
      reportsIn slot (entry :: past) ++
        split entry.before.config.lineBufferSize.toNat session.input.bytes

/-- What becomes of the lines that a server has received. -/
structure LinesKept (history : List Entry) (server : Server) : Prop where
  /-- They have been served in order, each of them once, or stand in the input in order. -/
  accounted : ∀ slot session, server.sessions.get? slot = some session →
    split server.config.lineBufferSize.toNat (receivedIn slot history) =
      reportsIn slot history ++
        split server.config.lineBufferSize.toNat session.input.bytes
  /-- Those that stand in the input when a pass finds the connection to be gone are not served. -/
  forsaken : Settled history server → ∀ events result, Exec server.runOnce events result →
    ∃ recent, Settled (recent ++ history) result.2 ∧ eventsOf recent = events ∧
      ∀ newer entry older slot, recent = newer ++ entry :: older → entry.Deserted slot →
        Forsaken slot (older ++ history) entry newer

section Histories

variable {server : Server} {older history : List Entry} {entry : Entry} {slot : Nat}
  {session : Session}

/-- Nothing is received from a connection that is found to be gone. -/
theorem Entry.Deserted.received_eq (h : entry.Deserted slot) (placed : entry.before.sessions.Placed)
    (run : Exec (entry.before.perform entry.deed) entry.events server)
    (get : entry.before.sessions.get? slot = some session) : entry.received slot = [] := by
  rw [Entry.received, if_pos h.deed, get]
  rw [h.deed] at run
  obtain ⟨alive, session', hreceive, -⟩ := exec_receive placed get run
  exact (exec_receive_run hreceive).takenFrom_eq_nil h.breaks

/-- In order and each of them once, a server serves the lines that it receives, but those that stand
in the input when a client has closed its end. -/
theorem linesKept_of_reachable (h : Reachable history server)
    (hsize : 0 < server.config.lineBufferSize.toNat) : LinesKept history server where
  accounted slot session get := (h.standing hsize get).split_eq hsize
  forsaken hsettled events result run := by
    obtain ⟨recent, hsettled', hevents, hpass⟩ := hsettled.exists_of_runOnce run
    refine ⟨recent, hsettled', hevents, ?_⟩
    rintro newer entry older slot rfl hdeserted
    rcases hpass with hnil | hpass
    · simp at hnil
    have hreachable := hsettled'.reachable
    rw [List.append_assoc, List.cons_append] at hreachable
    obtain ⟨hbefore, server', hrun⟩ := hreachable.of_append
    have hconfig : entry.before.config = server.config :=
      hpass.leads.of_append_cons.1.config_eq h.placed
    refine ⟨hpass.closesAfter newer entry older slot rfl hdeserted, fun session get => ?_⟩
    have hreceived := hdeserted.received_eq hbefore.placed hrun get
    have hreport : entry.report? slot = none := if_neg (by rw [hdeserted.deed]; exact nofun)
    rw [receivedIn_cons get, reportsIn_cons get, hreceived, hreport, List.append_nil,
      Option.toList_none, List.append_nil]
    have hpos : 0 < entry.before.config.lineBufferSize.toNat := hconfig ▸ hsize
    exact (hbefore.standing hpos get).split_eq hpos

/-- So many passes of a server that a client sends three lines to, all at once, before it closes its
end. -/
def hangingUp (count : Nat) : List Event × Server × Simulation.World :=
  passes {} { name := "ada", password := [], root := "/srv/ftp", rights := .all } {}
    "USER ada\r\nPASS x\r\nMKD d\r\n".toList true count

theorem linesKept_of_reachable_hangingUp :
    ((hangingUp 2).2.1.sessions.get? 0).map (fun session => split 512 session.input.bytes) =
        some [.line "PASS x".toList, .line "MKD d".toList] ∧
      ∃ history, Settled history (hangingUp 2).2.1 ∧ Reachable history (hangingUp 2).2.1 ∧
        0 < (hangingUp 2).2.1.config.lineBufferSize.toNat ∧
        LinesKept history (hangingUp 2).2.1 := by
  obtain ⟨recent, hsettled, -⟩ := exists_settled_passes {}
    { name := "ada", password := [], root := "/srv/ftp", rights := .all } {}
    "USER ada\r\nPASS x\r\nMKD d\r\n".toList true 2
  have hsize : 0 < (hangingUp 2).2.1.config.lineBufferSize.toNat := by decide +kernel
  exact ⟨by decide +kernel, _, hsettled, hsettled.reachable, hsize,
    linesKept_of_reachable hsettled.reachable hsize⟩

/-- All three lines are received, but only the first of them is answered before the session is
closed. -/
theorem hangingUp_unserved :
    split 512 (takenFrom (.socket ⟨2⟩) (hangingUp 3).1) =
        [.line "USER ada".toList, .line "PASS x".toList, .line "MKD d".toList] ∧
      (repliesIn (hangingUp 3).1).map (fun reply => (reply.1.id, reply.2.code)) =
        [(2, 220), (2, 331)] ∧
      (hangingUp 3).2.1.sessions.get? 0 = none := by
  decide +kernel

end Histories

end Ftp
