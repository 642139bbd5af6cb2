import Ftp.Proofs.Hearing

/-!
# The lines that a client sends

While a session stays, the lines that its client sends are served to it in their order, whatever the
pieces in which they arrive and whatever is done for others in between.

* `LineBuffer.split_sentLines`: lines that fit are reported as they were sent;
* `LineBuffer.Standing.hasLine_of_lt`: one of them waits until all have been reported;
* `Leads.standing`: what an input makes of some deeds;
* `Pass.exists_report`: a pass serves a line that waits, or the client is gone.
-/

namespace Ftp

open Program LineBuffer

/-! ## Lines -/

/-- The lines with their ends, as they are sent. -/
def sentLines (lines : List Text) : List UInt8 :=
  ends (lines.map Utf8.encode)

/-- A buffer of the capacity holds the line together with its end. -/
structure Fits (capacity : Nat) (line : Text) : Prop where
  unbroken : Unbroken line
  length_le : Utf8.length line + 2 ≤ capacity

namespace LineBuffer

variable {capacity : Nat} {lines : List Text} {buffer : LineBuffer} {taken : List UInt8}
  {reports : List Report}

/-- Lines that fit are reported as they were sent. -/
theorem split_sentLines (h : ∀ line ∈ lines, Fits capacity line) (later : List UInt8) :
    split capacity (sentLines lines ++ later) = lines.map Report.line ++ split capacity later := by
  have hfree : ∀ line ∈ lines.map Utf8.encode, EndFree line := by
    intro line hmem
    obtain ⟨text, htext, rfl⟩ := List.mem_map.1 hmem
    exact Utf8.endFree_encode (h text htext).unbroken
  have hreports : (lines.map Utf8.encode).map (Report.ofLine capacity) = lines.map Report.line := by
    rw [List.map_map]
    refine List.map_congr_left fun line hmem => ?_
    rw [Function.comp_apply, Report.ofLine, Utf8.length_encode, if_pos (h line hmem).length_le,
      Utf8.decode_encode]
  rw [split, sentLines, lines_ends hfree, List.map_append, List.append_assoc, hreports]
  rfl

/-- Whatever is behind them, lines that fit are the first to be reported. -/
theorem Standing.isPrefix_lines (h : ∀ line ∈ lines, Fits capacity line)
    (standing : Standing capacity buffer taken reports) (hsent : sentLines lines <+: taken)
    (hle : reports.length ≤ lines.length) : reports <+: lines.map Report.line := by
  obtain ⟨later, rfl⟩ := hsent
  have hreports := standing.isPrefix
  rw [split_sentLines h] at hreports
  exact List.prefix_of_prefix_length_le hreports (List.prefix_append _ _) (by simpa using hle)

/-- A buffer that has nothing in it, and keeps what comes. -/
structure IsBlank (buffer : LineBuffer) : Prop where
  bytes_eq : buffer.bytes = []
  keeps : buffer.skipping = false

/-- It does not matter what a blank buffer has been through. -/
theorem Standing.restart (standing : Standing capacity buffer taken reports)
    (hblank : buffer.IsBlank) : Standing capacity buffer [] [] := by
  obtain ⟨hbytes, hkeeps⟩ := hblank
  cases standing with
  | collecting =>
    cases hbytes
    exact @Standing.collecting _ [] [] (by simp) (by simp)
  | skipping => cases hkeeps

theorem exists_report_of_hasLine (h : buffer.hasLine = true) :
    ∃ report, buffer.nextReport.1 = some report := by
  obtain ⟨pieces, hcut⟩ := Option.isSome_iff_exists.1 h
  exact ⟨.line (Utf8.decode pieces.1), by simp [nextReport, nextLine?, hcut]⟩

/-- A buffer that has taken lines that fit holds a line until all of them have been reported. -/
theorem Standing.hasLine_of_lt (hcapacity : 0 < capacity)
    (h : ∀ line ∈ lines, Fits capacity line)
    (standing : Standing capacity buffer taken reports) (hsent : sentLines lines <+: taken)
    (hlt : reports.length < lines.length) : buffer.hasLine = true := by
  by_contra hline
  have hnext : buffer.nextLine? = none := by
    rw [nextLine?, Option.map_eq_none_iff]
    exact Option.not_isSome_iff_eq_none.1 hline
  cases hfull : buffer.overflowed with
  | false =>
    obtain ⟨later, rfl⟩ := hsent
    rw [standing.eq_split hnext hfull, split_sentLines h, List.length_append,
      List.length_map] at hlt
    omega
  | true =>
    -- An overflow would be reported among the lines.
    have hreport : buffer.nextReport = (some .overflow, buffer.dropLine) := by
      unfold LineBuffer.nextReport
      rw [hnext]
      exact if_pos hfull
    have hstanding := standing.nextReport hcapacity
    rw [hreport] at hstanding
    have hle : (reports ++ [Report.overflow]).length ≤ lines.length := by
      rw [List.length_append]
      exact hlt
    have hmem : Report.overflow ∈ lines.map Report.line :=
      (hstanding.isPrefix_lines h hsent hle).subset (by simp)
    simp at hmem

end LineBuffer

/-! ## Sessions that stay -/

/-- A session stands in the slot before each of the deeds, so that none but the last can have closed
it. -/
def Stays (slot : Nat) (recent : List Entry) : Prop :=
  ∀ entry ∈ recent, (entry.before.sessions.get? slot).isSome = true

section Stays

variable {server server' : Server} {history recent older newer : List Entry} {entry : Entry}
  {slot : Nat} {session session' : Session} {capacity : Nat} {taken : List UInt8}
  {reports : List Report} {lines : List Text}

theorem Stays.lifetime_eq (h : Stays slot recent) : lifetime slot recent = recent :=
  List.takeWhile_eq_self_iff.2 h

theorem Stays.receivedIn_append (h : Stays slot (newer ++ older)) :
    receivedIn slot (newer ++ older) = receivedIn slot older ++ receivedIn slot newer := by
  obtain ⟨hnewer, holder⟩ := List.forall_mem_append.1 h
  rw [receivedIn, receivedIn, receivedIn, h.lifetime_eq, Stays.lifetime_eq hnewer,
    Stays.lifetime_eq holder, List.reverse_append, List.flatMap_append]

theorem Stays.reportsIn_append (h : Stays slot (newer ++ older)) :
    reportsIn slot (newer ++ older) = reportsIn slot older ++ reportsIn slot newer := by
  obtain ⟨hnewer, holder⟩ := List.forall_mem_append.1 h
  rw [reportsIn, reportsIn, reportsIn, h.lifetime_eq, Stays.lifetime_eq hnewer,
    Stays.lifetime_eq holder, List.reverse_append, List.filterMap_append]

theorem Stays.length_reportsIn_le (h : Stays slot recent) :
    (reportsIn slot recent).length ≤ tally (.serve slot) recent := by
  rw [reportsIn, h.lifetime_eq, List.filterMap_reverse, List.length_reverse]
  exact length_filterMap_report_le slot recent

/-- A session that is not closed stays. -/
theorem Leads.stays (leads : Leads server recent server') (placed : server.sessions.Placed)
    (hsome : (server.sessions.get? slot).isSome = true)
    (hdeeds : ∀ entry ∈ recent, ¬ (entry.deed = .close slot ∨ entry.deed = .expire slot)) :
    Stays slot recent := by
  induction leads with
  | nil => exact List.forall_mem_nil _
  | cons leads _ ih =>
    have hrest := (List.forall_mem_cons.1 hdeeds).2
    exact List.forall_mem_cons.2 ⟨leads.isSome_get? placed hrest hsome, ih hrest⟩

/-- What an input makes of some deeds that its session lives through. -/
theorem Leads.standing (leads : Leads server recent server') (h : Reachable history server)
    (stays : Stays slot recent) (get : server.sessions.get? slot = some session)
    (get' : server'.sessions.get? slot = some session') (hcapacity : 0 < capacity)
    (standing : Standing capacity session.input taken reports) :
    Standing capacity session'.input (taken ++ receivedIn slot recent)
      (reports ++ reportsIn slot recent) := by
  induction leads generalizing session' with
  | nil =>
    cases get.symm.trans get'
    simpa [receivedIn, reportsIn, lifetime] using standing
  | @cons _ before' _ deed events leads run ih =>
    obtain ⟨hsome, hrest⟩ := List.forall_mem_cons.1 stays
    obtain ⟨before, hbefore⟩ := Option.isSome_iff_exists.1 hsome
    have hinput : InputRun slot ⟨before', deed, events⟩ session'.input :=
      exec_input (h.append leads) run get'
    rw [receivedIn_cons hbefore, reportsIn_cons hbefore, ← List.append_assoc, ← List.append_assoc]
    exact hinput.standing hbefore hcapacity (ih hrest hbefore)

theorem Reachable.standing_of_isBlank (h : Reachable history server)
    (get : server.sessions.get? slot = some session) (hblank : session.input.IsBlank)
    (hcapacity : 0 < session.input.capacity) :
    Standing session.input.capacity session.input [] [] := by
  have hsize := h.inputCapacity_eq get
  have hstanding := h.standing (hsize ▸ hcapacity) get
  rw [← hsize] at hstanding
  exact hstanding.restart hblank

/-- In some deeds of the loop the lines have come to the session of the slot, and it is still
there. -/
structure Sends (slot : Nat) (lines : List Text) (server : Server) (recent : List Entry)
    (server' : Server) : Prop where
  leads : Leads server recent server'
  routine : ∀ entry ∈ recent, entry.deed.isRoutine = true
  stays : Stays slot recent
  isSome : (server'.sessions.get? slot).isSome = true
  sent : sentLines lines <+: receivedIn slot recent

theorem Sends.append {last : Server} (h : Sends slot lines server older server')
    (leads : Leads server' newer last)
    (routine : ∀ entry ∈ newer, entry.deed.isRoutine = true) (stays : Stays slot newer)
    (isSome : (last.sessions.get? slot).isSome = true) :
    Sends slot lines server (newer ++ older) last := by
  have hstays : Stays slot (newer ++ older) := List.forall_mem_append.2 ⟨stays, h.stays⟩
  refine ⟨h.leads.append leads, List.forall_mem_append.2 ⟨routine, h.routine⟩, hstays, isSome, ?_⟩
  rw [hstays.receivedIn_append]
  exact h.sent.trans (List.prefix_append _ _)

/-! ## Passes -/

/-- All the deeds of a pass are the loop's own. -/
theorem Pass.isRoutine (h : Pass server recent server') :
    ∀ entry ∈ recent, entry.deed.isRoutine = true := by
  obtain ⟨hsteps, hpoll, hadmissions, -, hturns, hclock, hdepartures⟩ := h.stages
  intro entry hmem
  simp only [List.mem_append, List.mem_cons] at hmem
  rcases hmem with ((hmem | rfl | hmem) | hmem) | rfl | hmem
  · obtain ⟨other, hdeed⟩ := hdepartures.exists_slot entry hmem
    rw [hdeed]
    rfl
  · rw [hclock]
    rfl
  · have hturn := hturns.isTurn entry hmem
    generalize entry.deed = deed at hturn
    cases deed <;> first | rfl | cases hturn
  · rcases hadmissions with rfl | ⟨admission, rfl, haccept⟩
    · cases hmem
    · rw [List.mem_singleton.1 hmem, haccept]
      rfl
  · rw [hpoll]
    rfl
  · obtain ⟨other, hdeed⟩ := hsteps.exists_slot entry hmem
    rw [hdeed]
    rfl

/-- A line that waits is served in the next pass, unless the client is gone or its time is up. -/
theorem Pass.exists_report (h : Reachable history server) (pass : Pass server recent server')
    (attends : Attends slot recent) (get : server.sessions.get? slot = some session)
    (hcapacity : 0 < capacity) (hlines : ∀ line ∈ lines, Fits capacity line)
    (standing : Standing capacity session.input taken reports)
    (hsent : sentLines lines <+: taken) (hlt : reports.length < lines.length) :
    (∃ entry ∈ recent, entry.Deserted slot ∨ entry.deed = .expire slot) ∨
      (∃ newer entry older, recent = newer ++ entry :: older ∧ Stays slot older ∧
        reportsIn slot older = [] ∧ entry.Dismisses slot) ∨
      Stays slot recent ∧ (server'.sessions.get? slot).isSome = true ∧
        (reportsIn slot recent).length = 1 := by
  have hsome : (server.sessions.get? slot).isSome = true := by rw [get]; rfl
  obtain ⟨hstays, hattends⟩ := attends
  rename_i newer older entry
  obtain ⟨hleads, -⟩ := pass.leads.of_append_cons
  have holder : Stays slot older := hleads.stays h.placed hsome hstays
  have hnothing : entry.deed = .serve slot → reportsIn slot older = [] := by
    -- The session is served only once.
    intro hdeed
    have htally := pass.tally_serve slot
    rw [tally_append, tally_cons, if_pos hdeed] at htally
    have hle := holder.length_reportsIn_le
    exact List.eq_nil_of_length_eq_zero (by omega)
  rcases hattends with ⟨hserve, hkept⟩ | hdismisses | hdeserted
  · by_cases hexpired : ∃ other ∈ newer, other.deed = .expire slot
    · obtain ⟨other, hother, hdeed⟩ := hexpired
      exact .inl ⟨other, List.mem_append_left _ hother, .inr hdeed⟩
    · have hdeeds : ∀ other ∈ newer ++ entry :: older,
          ¬ (other.deed = .close slot ∨ other.deed = .expire slot) := by
        refine List.forall_mem_append.2 ⟨fun other hother hdeed => ?_,
          List.forall_mem_cons.2 ⟨by simp [hserve], hstays⟩⟩
        exact hdeed.elim (hkept other hother) fun hdeed => hexpired ⟨other, hother, hdeed⟩
      have hrecent := pass.leads.stays h.placed hsome hdeeds
      refine .inr (.inr ⟨hrecent, pass.leads.isSome_get? h.placed hdeeds hsome, ?_⟩)
      refine Nat.le_antisymm (hrecent.length_reportsIn_le.trans (pass.tally_serve slot)) ?_
      -- When the session is served, the line is still there.
      obtain ⟨before, hbefore⟩ :=
        Option.isSome_iff_exists.1 (hleads.isSome_get? h.placed hstays hsome)
      have hstanding := hleads.standing h holder get hbefore hcapacity standing
      rw [hnothing hserve, List.append_nil] at hstanding
      have hline := hstanding.hasLine_of_lt hcapacity hlines
        (hsent.trans (List.prefix_append _ _)) hlt
      obtain ⟨report, hreport⟩ := exists_report_of_hasLine hline
      have hmem : report ∈ reportsIn slot (newer ++ entry :: older) := by
        rw [reportsIn, hrecent.lifetime_eq]
        refine List.mem_filterMap.2 ⟨entry, by simp, ?_⟩
        rw [Entry.report?, if_pos hserve, hbefore, Option.bind_some, hreport]
      exact List.length_pos_of_mem hmem
  · exact .inr (.inl ⟨newer, entry, older, rfl, holder, hnothing hdismisses.deed, hdismisses⟩)
  · exact .inl ⟨entry, by simp, .inl hdeserted⟩

end Stays

end Ftp
