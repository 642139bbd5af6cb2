/-!
# Text

Command lines, paths, names and reply texts are lists of characters: they are cut, trimmed and
joined by recursion on the list. `split_join` says that cutting at a separator loses nothing, and
`not_mem_of_mem_split` that no piece holds the separator.
-/

namespace Ftp

/-- Text is a list of Unicode scalar values. -/
abbrev Text := List Char

instance : Coe String Text := ⟨String.toList⟩

namespace Text

/-- The pieces of `s` between the separators: one more than `s` has separators. -/
def split (sep : Char) : Text → List Text
  | [] => [[]]
  | c :: rest =>
    if c = sep then [] :: split sep rest
    else
      match split sep rest with
      | [] => [[c]]
      | piece :: pieces => (c :: piece) :: pieces

/-- The pieces with one separator between neighbours. -/
def join (sep : Char) : List Text → Text
  | [] => []
  | [piece] => piece
  | piece :: pieces => piece ++ sep :: join sep pieces

theorem split_ne_nil (sep : Char) (s : Text) : split sep s ≠ [] := by
  cases s with
  | nil => simp [split]
  | cons c rest =>
    simp only [split]
    split
    · simp
    · split <;> simp

theorem join_split (sep : Char) (s : Text) : join sep (split sep s) = s := by
  induction s with
  | nil => rfl
  | cons c rest ih =>
    cases h : split sep rest with
    | nil => exact absurd h (split_ne_nil sep rest)
    | cons piece pieces =>
      by_cases hc : c = sep
      · subst hc; rw [h] at ih; simp [split, h, join, ih]
      · rw [h] at ih
        cases pieces <;> simp [split, h, hc, join] at ih ⊢ <;> exact ih

theorem not_mem_of_mem_split {sep : Char} {s piece : Text} (h : piece ∈ split sep s) :
    sep ∉ piece := by
  induction s generalizing piece with
  | nil => simp_all [split]
  | cons c rest ih =>
    cases hs : split sep rest with
    | nil => exact absurd hs (split_ne_nil sep rest)
    | cons first others =>
      by_cases hc : c = sep
      · simp only [split, hc, if_true, List.mem_cons] at h
        rcases h with rfl | h
        · simp
        · exact ih h
      · simp only [split, hc, if_false, hs, List.mem_cons] at h
        rcases h with rfl | h
        · have := @ih first (by simp [hs])
          simp [this, Ne.symm hc]
        · exact ih (by simp [hs, h])

/-- Drops the longest run of characters in the class from the end. -/
def dropEnd (p : Char → Bool) (s : Text) : Text :=
  (s.reverse.dropWhile p).reverse

/-- Drops the runs of characters in the class from both ends. -/
def strip (p : Char → Bool) (s : Text) : Text :=
  dropEnd p (s.dropWhile p)

/-- The text with `a` to `z` in upper case; every other character is kept. -/
def asciiUpper (s : Text) : Text :=
  s.map Char.toUpper

/-- The text with `A` to `Z` in lower case; every other character is kept. -/
def asciiLower (s : Text) : Text :=
  s.map Char.toLower

/-- What follows `start` in `s`, if `s` begins with it. -/
def after? : (start s : Text) → Option Text
  | [], s => some s
  | _ :: _, [] => none
  | c :: start, d :: s => if c = d then after? start s else none

theorem after?_eq_some_iff {start s rest : Text} :
    after? start s = some rest ↔ s = start ++ rest := by
  induction start generalizing s with
  | nil => simp [after?, eq_comm]
  | cons c start ih =>
    cases s with
    | nil => simp [after?]
    | cons d s =>
      by_cases h : c = d
      · simp [after?, h, ih]
      · simp [after?, h, Ne.symm h]

section Parting

variable {sep : Char} {before rest : Text}

theorem takeWhile_ne_append (h : sep ∉ before) :
    (before ++ sep :: rest).takeWhile (· ≠ sep) = before := by
  have hbefore : ∀ c ∈ before, decide (c ≠ sep) = true := fun c hc =>
    decide_eq_true (ne_of_mem_of_not_mem hc h)
  rw [List.takeWhile_append_of_pos hbefore, List.takeWhile_cons_of_neg (by simp), List.append_nil]

theorem dropWhile_ne_append (h : sep ∉ before) :
    (before ++ sep :: rest).dropWhile (· ≠ sep) = sep :: rest := by
  have hbefore : ∀ c ∈ before, decide (c ≠ sep) = true := fun c hc =>
    decide_eq_true (ne_of_mem_of_not_mem hc h)
  rw [List.dropWhile_append_of_pos hbefore, List.dropWhile_cons_of_neg (by simp)]

end Parting

/-- The text fills at least `width` columns, with blanks added in front. -/
def padLeft (width : Nat) (s : Text) : Text :=
  List.replicate (width - s.length) ' ' ++ s

/-- The text fills at least `width` columns, with blanks added behind. -/
def padRight (width : Nat) (s : Text) : Text :=
  s ++ List.replicate (width - s.length) ' '

end Text

end Ftp
