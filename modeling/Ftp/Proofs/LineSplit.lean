import Ftp.Dispatch

/-!
# The lines of a stream

What a line buffer reports of a stream of bytes does not depend on the pieces in which the stream
arrives, nor on when the reports are taken. The reference is `split`: the stream is cut at each CR
LF (`lines`, which `isCut_lines` characterises), a line that fits the buffer is reported as its
text, and one that does not as a single overflow.

* `lines_ends`, `lines_of_endFree`: how a stream that is put together from lines is cut;
* `endFree_of_skipLine`, `cut_of_skipLine`: what skipping a line does to the bytes before it;
* `Standing.turn`: the invariant, which places a buffer in the split of the bytes that it has
  taken, is kept by each turn;
* `run_reports`: the reports are the first ones of the split, and all of them once the buffer has
  nothing more to report.
-/

namespace Ftp

namespace LineBuffer

/-! ## The reference -/

/-- What is reported of one line. -/
inductive Report where
  | line (text : Text)
  /-- The line does not fit. -/
  | overflow
  deriving DecidableEq, Repr

/-- One more byte in front of the first line. -/
def prepend (b : UInt8) : List (List UInt8) × List UInt8 → List (List UInt8) × List UInt8
  | ([], tail) => ([], b :: tail)
  | (line :: lines, tail) => ((b :: line) :: lines, tail)

/-- The lines of a stream without their ends, and the bytes behind the last end. -/
def lines : List UInt8 → List (List UInt8) × List UInt8
  | [] => ([], [])
  | [b] => ([], [b])
  | b :: c :: rest =>
    if b = cr ∧ c = lf then ([] :: (lines rest).1, (lines rest).2)
    else prepend b (lines (c :: rest))

/-- A line fits if the buffer can hold it with its CR LF. -/
def Report.ofLine (capacity : Nat) (line : List UInt8) : Report :=
  if line.length + 2 ≤ capacity then .line (Utf8.decode line) else .overflow

/-- The reports of a stream: one of each line, and an overflow once the line that has not ended
fills the buffer. -/
def split (capacity : Nat) (stream : List UInt8) : List Report :=
  (lines stream).1.map (.ofLine capacity) ++
    if capacity ≤ (lines stream).2.length then [.overflow] else []

/-- There is no CR LF in the bytes. -/
def EndFree (bytes : List UInt8) : Prop :=
  ¬ [cr, lf] <:+: bytes

/-- The lines with their ends. -/
def ends (lines : List (List UInt8)) : List UInt8 :=
  lines.flatMap (· ++ [cr, lf])

/-- The stream is cut at each CR LF and nowhere else. -/
structure IsCut (stream : List UInt8) (lines : List (List UInt8)) (tail : List UInt8) : Prop where
  eq : stream = ends lines ++ tail
  lines : ∀ line ∈ lines, EndFree line
  tail : EndFree tail

theorem endFree_nil : EndFree [] := by
  intro h; have := h.length_le; simp at this

theorem endFree_singleton (b : UInt8) : EndFree [b] := by
  intro h; have := h.length_le; simp at this

theorem endFree_cons_cons {b c : UInt8} {rest : List UInt8} :
    EndFree (b :: c :: rest) ↔ ¬ (b = cr ∧ c = lf) ∧ EndFree (c :: rest) := by
  simp only [EndFree, List.infix_cons_iff (a := b), List.cons_prefix_cons, List.nil_prefix,
    and_true, not_or]
  refine and_congr_left fun _ => not_congr ?_
  rw [eq_comm, eq_comm (a := lf)]

theorem EndFree.of_append_left {p q : List UInt8} (h : EndFree (p ++ q)) : EndFree p :=
  fun hp => h (hp.trans (List.prefix_append p q).isInfix)

theorem lines_of_endFree {tail : List UInt8} (h : EndFree tail) : lines tail = ([], tail) := by
  induction tail with
  | nil => rfl
  | cons b rest ih =>
    cases rest with
    | nil => rfl
    | cons c rest =>
      obtain ⟨hbc, hrest⟩ := endFree_cons_cons.1 h
      rw [lines, if_neg hbc, ih hrest]
      rfl

theorem lines_line {line : List UInt8} (h : EndFree line) (rest : List UInt8) :
    lines (line ++ cr :: lf :: rest) = (line :: (lines rest).1, (lines rest).2) := by
  induction line with
  | nil => simp [lines]
  | cons b line ih =>
    cases line with
    | nil =>
      -- A CR right before the end of its line starts no CR LF of its own.
      simp [lines, prepend, show cr ≠ lf by decide]
    | cons c line =>
      obtain ⟨hbc, hline⟩ := endFree_cons_cons.1 h
      have := ih hline
      simp only [List.cons_append] at this ⊢
      rw [lines, if_neg hbc, this]
      rfl

/-- Complete lines in front of a stream are its first lines. -/
theorem lines_ends {ls : List (List UInt8)} (h : ∀ line ∈ ls, EndFree line) (rest : List UInt8) :
    lines (ends ls ++ rest) = (ls ++ (lines rest).1, (lines rest).2) := by
  induction ls with
  | nil => simp [ends]
  | cons line ls ih =>
    have hl := lines_line (h line List.mem_cons_self) (ends ls ++ rest)
    have hls := ih fun l hm => h l (List.mem_cons_of_mem _ hm)
    simp only [ends, List.flatMap_cons, List.append_assoc, List.cons_append,
      List.nil_append] at hl ⊢
    rw [hl]
    simp only [ends] at hls
    rw [hls]

theorem isCut_lines (stream : List UInt8) : IsCut stream (lines stream).1 (lines stream).2 := by
  fun_induction lines stream with
  | case1 => exact ⟨rfl, by simp, endFree_nil⟩
  | case2 b => exact ⟨rfl, by simp, endFree_singleton b⟩
  | case3 b c rest h ih =>
    obtain ⟨rfl, rfl⟩ := h
    refine ⟨?_, ?_, ih.tail⟩
    · simpa [ends] using ih.eq
    · simpa [endFree_nil] using ih.lines
  | case4 b c rest h ih =>
    cases hl : lines (c :: rest) with
    | mk ls tail =>
      rw [hl] at ih
      cases ls with
      | nil =>
        have htail : tail = c :: rest := by simpa [ends] using ih.eq.symm
        subst htail
        exact ⟨rfl, by simp [prepend], endFree_cons_cons.2 ⟨h, ih.tail⟩⟩
      | cons line ls =>
        have heq := ih.eq
        refine ⟨by simp [prepend, ends, heq] , ?_, ih.tail⟩
        simp only [prepend, List.mem_cons, forall_eq_or_imp]
        have hmem := ih.lines
        simp only [List.mem_cons, forall_eq_or_imp] at hmem
        refine ⟨?_, hmem.2⟩
        cases line with
        | nil => exact endFree_singleton b
        | cons d line =>
          simp only [ends, List.flatMap_cons, List.cons_append, List.cons.injEq] at heq
          rw [← heq.1] at hmem ⊢
          exact endFree_cons_cons.2 ⟨h, hmem.1⟩

/-! ## Cutting and skipping -/

theorem endFree_concat {p : List UInt8} {b : UInt8} :
    EndFree (p ++ [b]) ↔ EndFree p ∧ ¬ (p.getLast? = some cr ∧ b = lf) := by
  induction p with
  | nil => simp [endFree_nil, endFree_singleton]
  | cons a p ih =>
    cases p with
    | nil =>
      rw [List.singleton_append, endFree_cons_cons]
      simp [endFree_singleton]
    | cons c p =>
      simp only [List.cons_append, endFree_cons_cons, List.getLast?_cons_cons] at ih ⊢
      rw [ih, and_assoc]

theorem endFree_of_cut? {bytes line rest : List UInt8} (h : cut? bytes = some (line, rest)) :
    EndFree line := by
  induction bytes generalizing line with
  | nil => simp [cut?] at h
  | cons b bytes ih =>
    simp only [cut?] at h
    split at h
    · simp only [Option.some.injEq, Prod.mk.injEq] at h
      rw [← h.1]; exact endFree_nil
    · rename_i hb
      obtain ⟨⟨line', rest'⟩, hcut, heq⟩ := Option.map_eq_some_iff.1 h
      obtain ⟨rfl, rfl⟩ := Prod.mk.inj heq
      have hline := ih hcut
      have hbytes := eq_append_of_cut? hcut
      cases line' with
      | nil => exact endFree_singleton b
      | cons c line' =>
        refine endFree_cons_cons.2 ⟨fun hbc => hb ⟨hbc.1, ?_⟩, hline⟩
        rw [hbytes, hbc.2]; rfl

theorem endFree_of_cut?_eq_none {bytes : List UInt8} (h : cut? bytes = none) : EndFree bytes := by
  induction bytes with
  | nil => exact endFree_nil
  | cons b bytes ih =>
    simp only [cut?] at h
    split at h
    · cases h
    · rename_i hb
      have hrest := ih (Option.map_eq_none_iff.1 h)
      cases bytes with
      | nil => exact endFree_singleton b
      | cons c bytes => exact endFree_cons_cons.2 ⟨fun hbc => hb ⟨hbc.1, by rw [hbc.2]; rfl⟩, hrest⟩

/-- Bytes that are skipped to their end go on with the line `part` before them. -/
theorem endFree_of_skipLine {part bytes : List UInt8} {lastWasCR : Bool} (hpart : EndFree part)
    (h : skipLine (part.getLast? = some cr) bytes = .error lastWasCR) :
    EndFree (part ++ bytes) ∧ lastWasCR = decide ((part ++ bytes).getLast? = some cr) := by
  induction bytes generalizing part with
  | nil =>
    simp only [skipLine, Except.error.injEq] at h
    simp [hpart, ← h]
  | cons b rest ih =>
    simp only [skipLine, decide_eq_true_eq] at h
    split at h
    · cases h
    · rename_i hb
      have := @ih (part ++ [b]) (endFree_concat.2 ⟨hpart, hb⟩) (by simpa using h)
      simpa using this

/-- Skipping stops behind the first CR LF, which may begin with the last byte of `part`. -/
theorem cut_of_skipLine {part bytes rest : List UInt8} (hpart : EndFree part)
    (h : skipLine (part.getLast? = some cr) bytes = .ok rest) :
    ∃ line skipped, EndFree line ∧ bytes = skipped ++ rest ∧ part ++ skipped = line ++ [cr, lf] ∧
      part.length ≤ line.length + 1 := by
  induction bytes generalizing part with
  | nil => simp [skipLine] at h
  | cons b bytes ih =>
    simp only [skipLine, decide_eq_true_eq] at h
    split at h
    · rename_i hb
      obtain ⟨line, rfl⟩ := List.getLast?_eq_some_iff.1 hb.1
      simp only [Except.ok.injEq] at h
      refine ⟨line, [lf], hpart.of_append_left, ?_, by simp, by simp⟩
      rw [hb.2, h]; rfl
    · rename_i hb
      obtain ⟨line, skipped, hline, heq, hend, hlen⟩ :=
        @ih (part ++ [b]) (endFree_concat.2 ⟨hpart, hb⟩) (by simpa using h)
      refine ⟨line, b :: skipped, hline, by rw [heq]; rfl, by simpa using hend, ?_⟩
      rw [List.length_append, List.length_singleton] at hlen
      omega

/-! ## A stream on its way into a buffer -/

/-- What the buffer has to report next, if anything: a complete line, or else that it is full. -/
def nextReport (buffer : LineBuffer) : Option Report × LineBuffer :=
  match buffer.nextLine? with
  | some (text, buffer) => (some (.line text), buffer)
  | none => if buffer.overflowed then (some .overflow, buffer.dropLine) else (none, buffer)

/-- A stream of which a buffer has taken the first bytes. -/
structure Intake where
  buffer : LineBuffer
  taken : List UInt8 := []
  /-- The bytes that have not been taken yet. -/
  rest : List UInt8
  reports : List Report := []

/-- What is done with a buffer. -/
inductive Turn where
  /-- It is offered the next bytes, at most so many, and takes some of them. -/
  | offer (count : Nat)
  | report

/-- Bytes that are not taken will be offered again. -/
def Intake.turn (intake : Intake) : Turn → Intake
  | .offer count =>
    let offered := intake.rest.take count
    let (taken, buffer) := intake.buffer.extend offered
    { intake with
      buffer
      taken := intake.taken ++ offered.take taken
      rest := offered.drop taken ++ intake.rest.drop count }
  | .report =>
    let (report?, buffer) := intake.buffer.nextReport
    { intake with buffer, reports := intake.reports ++ report?.toList }

/-- An empty buffer takes in a stream. -/
def Intake.run (capacity : Nat) (stream : List UInt8) (turns : List Turn) : Intake :=
  turns.foldl Intake.turn { buffer := { capacity }, rest := stream }

/-- Where a buffer stands in the split of the bytes that it has taken. -/
inductive Standing (capacity : Nat) : LineBuffer → List UInt8 → List Report → Prop
  /-- It holds what stands behind the lines that have been reported. -/
  | collecting {ls : List (List UInt8)} {bytes : List UInt8} (lines : ∀ line ∈ ls, EndFree line)
    (length : bytes.length ≤ capacity) :
    Standing capacity { capacity, bytes } (ends ls ++ bytes) (ls.map (.ofLine capacity))
  /-- It is past `part` of a line that has been reported to overflow. -/
  | skipping {ls : List (List UInt8)} {part : List UInt8} (lines : ∀ line ∈ ls, EndFree line)
    (part_endFree : EndFree part) (length : capacity ≤ part.length) :
    Standing capacity
      { capacity, bytes := [], skipping := true, lastWasCR := part.getLast? = some cr }
      (ends ls ++ part) (ls.map (.ofLine capacity) ++ [.overflow])

theorem ends_concat (ls : List (List UInt8)) (line rest : List UInt8) :
    ends (ls ++ [line]) ++ rest = ends ls ++ (line ++ cr :: lf :: rest) := by
  simp [ends]

theorem endFree_of_mem_concat {ls : List (List UInt8)} {line : List UInt8}
    (h : ∀ l ∈ ls, EndFree l) (hline : EndFree line) : ∀ l ∈ ls ++ [line], EndFree l := by
  intro l hl
  rcases List.mem_append.1 hl with hl | hl
  · exact h l hl
  · rw [List.mem_singleton.1 hl]; exact hline

section Standing

variable {capacity : Nat} {buffer : LineBuffer} {taken : List UInt8} {reports : List Report}

theorem overflowed_iff : buffer.overflowed = true ↔
    buffer.capacity ≤ buffer.bytes.length ∧ cut? buffer.bytes = none := by
  rw [overflowed, hasLine, Bool.and_eq_true, Bool.not_eq_true', Option.isSome_eq_false_iff,
    Option.isNone_iff_eq_none]
  exact and_congr_left fun _ => decide_eq_true_iff

/-- An empty buffer has nothing to report. -/
theorem nextReport_of_empty (hc : 1 ≤ buffer.capacity) (h : buffer.bytes = []) :
    buffer.nextReport = (none, buffer) := by
  have hline : buffer.nextLine? = none := by simp [nextLine?, h, cut?]
  have hfull : ¬ buffer.overflowed = true := by
    rw [overflowed_iff, h]
    simp only [List.length_nil]
    omega
  rw [LineBuffer.nextReport, hline]
  simp only [if_neg hfull]

theorem Standing.extend (h : Standing capacity buffer taken reports) (bytes : List UInt8) :
    Standing capacity (buffer.extend bytes).2 (taken ++ bytes.take (buffer.extend bytes).1)
      reports := by
  cases h with
  | @collecting ls held hls hlen =>
    simp only [LineBuffer.extend, Bool.false_eq_true, if_false, store, spare, LineBuffer.length]
    rw [Nat.min_comm, ← List.take_eq_take_min, List.append_assoc]
    refine .collecting hls ?_
    rw [List.length_append, List.length_take]
    omega
  | @skipping ls part hls hpart hlen =>
    simp only [LineBuffer.extend, if_true]
    cases hskip : skipLine (part.getLast? = some cr) bytes with
    | error lastWasCR =>
      obtain ⟨hfree, rfl⟩ := endFree_of_skipLine hpart hskip
      simp only [List.take_length, List.append_assoc]
      refine .skipping hls hfree ?_
      rw [List.length_append]
      omega
    | ok rest =>
      obtain ⟨line, skipped, hline, rfl, hend, hle⟩ := cut_of_skipLine hpart hskip
      -- The line is reported already: it is too long to fit, since `part` fills the buffer.
      have hreport : Report.ofLine capacity line = .overflow := by
        rw [Report.ofLine, if_neg (by omega)]
      have hcount : (skipped ++ rest).length - rest.length = skipped.length := by
        rw [List.length_append]; omega
      have htaken : ends ls ++ part ++ (skipped ++ rest.take capacity) =
          ends (ls ++ [line]) ++ rest.take capacity := by
        rw [ends_concat, ← List.append_assoc, List.append_assoc (ends ls), hend]
        simp
      simp only [store, spare, LineBuffer.length, List.length_nil, Nat.sub_zero, List.nil_append]
      rw [hcount, List.take_length_add_append, Nat.min_comm, ← List.take_eq_take_min, htaken,
        show ls.map (Report.ofLine capacity) ++ [.overflow] =
          (ls ++ [line]).map (.ofLine capacity) by simp [hreport]]
      refine .collecting (endFree_of_mem_concat hls hline) ?_
      rw [List.length_take]
      omega

theorem Standing.nextReport (hc : 1 ≤ capacity) (h : Standing capacity buffer taken reports) :
    Standing capacity buffer.nextReport.2 taken (reports ++ buffer.nextReport.1.toList) := by
  cases h with
  | @collecting ls held hls hlen =>
    cases hcut : cut? held with
    | some pieces =>
      obtain ⟨line, rest⟩ := pieces
      have heq := eq_append_of_cut? hcut
      have hfit : line.length + 2 ≤ capacity ∧ rest.length ≤ capacity := by
        rw [heq] at hlen
        simp only [List.length_append, List.length_cons] at hlen
        omega
      have hreport : Report.ofLine capacity line = .line (Utf8.decode line) := by
        rw [Report.ofLine, if_pos hfit.1]
      simp only [LineBuffer.nextReport, nextLine?, hcut, Option.map_some, Option.toList_some]
      rw [← hreport, heq, ← ends_concat, ← List.map_singleton, ← List.map_append]
      exact .collecting (endFree_of_mem_concat hls (endFree_of_cut? hcut)) hfit.2
    | none =>
      simp only [LineBuffer.nextReport, nextLine?, hcut, Option.map_none]
      split
      · rename_i hfull
        exact .skipping hls (endFree_of_cut?_eq_none hcut) (overflowed_iff.1 hfull).1
      · simpa using Standing.collecting hls hlen
  | skipping hls hpart hlen =>
    rw [nextReport_of_empty hc rfl, Option.toList_none, List.append_nil]
    exact .skipping hls hpart hlen

theorem split_ends {ls : List (List UInt8)} (h : ∀ line ∈ ls, EndFree line) {tail : List UInt8}
    (htail : EndFree tail) :
    split capacity (ends ls ++ tail) =
      ls.map (.ofLine capacity) ++ if capacity ≤ tail.length then [.overflow] else [] := by
  rw [split, lines_ends h, lines_of_endFree htail]
  simp only [List.append_nil]

theorem Standing.isPrefix (h : Standing capacity buffer taken reports) :
    reports <+: split capacity taken := by
  cases h with
  | collecting hls _ =>
    rw [split, lines_ends hls, List.map_append, List.append_assoc]
    exact List.prefix_append _ _
  | skipping hls hpart hlen =>
    have hsplit := @split_ends capacity _ hls _ hpart
    rw [if_pos hlen] at hsplit
    exact hsplit ▸ List.prefix_refl _

theorem Standing.eq_split (h : Standing capacity buffer taken reports)
    (hline : buffer.nextLine? = none) (hfull : buffer.overflowed = false) :
    reports = split capacity taken := by
  cases h with
  | @collecting ls held hls _ =>
    have hcut : cut? held = none := Option.map_eq_none_iff.1 hline
    have hroom : ¬ capacity ≤ held.length := fun hle => by
      rw [overflowed_iff.2 ⟨hle, hcut⟩] at hfull
      cases hfull
    rw [split_ends hls (endFree_of_cut?_eq_none hcut), if_neg hroom, List.append_nil]
  | skipping hls hpart hlen => rw [split_ends hls hpart, if_pos hlen]

end Standing

theorem Standing.turn {capacity : Nat} (hc : 1 ≤ capacity) {intake : Intake}
    (h : Standing capacity intake.buffer intake.taken intake.reports) (turn : Turn) :
    Standing capacity (intake.turn turn).buffer (intake.turn turn).taken
      (intake.turn turn).reports := by
  cases turn with
  | offer count => exact h.extend _
  | report => exact h.nextReport hc

/-- No byte is lost or taken twice. -/
theorem Intake.taken_append_rest (intake : Intake) (turn : Turn) :
    (intake.turn turn).taken ++ (intake.turn turn).rest = intake.taken ++ intake.rest := by
  cases turn with
  | offer count =>
    simp only [Intake.turn, List.append_assoc]
    rw [← List.append_assoc (List.take _ (List.take count intake.rest)), List.take_append_drop,
      List.take_append_drop]
  | report => rfl

/-- A property of an empty buffer with the whole stream still to come that each turn keeps. -/
theorem Intake.run_induction {capacity : Nat} {stream : List UInt8} {P : Intake → Prop}
    (start : P { buffer := { capacity }, rest := stream })
    (turn : ∀ intake turn, P intake → P (intake.turn turn)) (turns : List Turn) :
    P (Intake.run capacity stream turns) := by
  suffices ∀ intake, P intake → P (turns.foldl Intake.turn intake) from this _ start
  induction turns with
  | nil => exact fun _ h => h
  | cons next turns ih => exact fun intake h => ih _ (turn intake next h)

/-- Whatever the pieces in which a stream is offered and whenever its reports are taken, the
reports are the first ones of the split of the bytes taken so far, and they are all of them when
the buffer neither holds a line nor overflows. -/
theorem run_reports {capacity : Nat} (hc : 1 ≤ capacity) (stream : List UInt8)
    (turns : List Turn) :
    let intake := Intake.run capacity stream turns
    intake.taken ++ intake.rest = stream ∧
      IsCut intake.taken (lines intake.taken).1 (lines intake.taken).2 ∧
      intake.reports <+: split capacity intake.taken ∧
      (intake.buffer.nextLine? = none → intake.buffer.overflowed = false →
        intake.reports = split capacity intake.taken) := by
  intro intake
  have htaken : intake.taken ++ intake.rest = stream :=
    Intake.run_induction (P := fun intake => intake.taken ++ intake.rest = stream) rfl
      (fun intake turn h => (intake.taken_append_rest turn).trans h) turns
  have hstanding : Standing capacity intake.buffer intake.taken intake.reports :=
    Intake.run_induction
      (P := fun intake => Standing capacity intake.buffer intake.taken intake.reports)
      (@Standing.collecting capacity [] [] (by simp) (by simp)) (fun _ turn h => h.turn hc turn)
      turns
  exact ⟨htaken, isCut_lines _, hstanding.isPrefix, hstanding.eq_split⟩

/-- A CR that fills the buffer, its LF in a later piece, and a line behind them. -/
theorem run_reports_straddling :
    let intake := Intake.run 4 [65, 66, 67, 13, 10, 68, 13, 10]
      [.offer 3, .offer 3, .report, .offer 1, .offer 9, .report]
    intake.taken ++ intake.rest = [65, 66, 67, 13, 10, 68, 13, 10] ∧
      intake.reports = [.overflow, .line ['D']] ∧ intake.reports = split 4 intake.taken := by
  have h := @run_reports 4 (by decide) [65, 66, 67, 13, 10, 68, 13, 10]
    [.offer 3, .offer 3, .report, .offer 1, .offer 9, .report]
  exact ⟨h.1, by decide, h.2.2.2 (by decide) (by decide)⟩

end LineBuffer

/-- A session is served what its line buffer reports next. -/
theorem Dispatch.processInput_eq (setting : Setting) (session : Session) :
    processInput setting session =
      match session.input.nextReport with
      | (some (.line text), input) => dispatch setting { session with input } text
      | (some .overflow, input) => do
        session.say 500 "Line too long."
        return (.failure "line too long", { session with input })
      | (none, _) => return (.success, session) := by
  unfold processInput LineBuffer.nextReport
  cases hline : session.input.nextLine? with
  | some next => rfl
  | none => cases hfull : session.input.overflowed <;> rfl

end Ftp
