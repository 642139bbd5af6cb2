import Ftp.Text

/-!
# Decimal numbers

Natural numbers and their decimal digits. `number_digits` says that the digits read back,
`number_zeroPadded` that leading zeros do not count, and `number?_eq_some_iff` which texts are read
as a number.
-/

namespace Ftp.Decimal

/-- The decimal digits of `n`, without leading zeros. -/
def digits (n : Nat) : Text :=
  Nat.toDigits 10 n

/-- The decimal digits of `n`, with leading zeros up to `width` digits. -/
def zeroPadded (width n : Nat) : Text :=
  List.replicate (width - (digits n).length) '0' ++ digits n

/-- The digits of an integer after its sign, which is written only for the negative ones. -/
def signed (n : Int) : Text :=
  if n < 0 then '-' :: digits n.natAbs else digits n.natAbs

/-- The number that a text of decimal digits stands for. -/
def number (s : Text) : Nat :=
  Nat.ofDigitChars 10 s 0

/-- Reads one or more decimal digits. -/
def number? (s : Text) : Option Nat :=
  if s ≠ [] ∧ s.all Char.isDigit then some (number s) else none

/-- Reads one or more decimal digits, after a plus sign if there is one. -/
def unsigned? (s : Text) : Option Nat :=
  match s with
  | '+' :: rest => number? rest
  | _ => number? s

/-- The integer, if a signed word of 64 bits holds it. -/
def signedWord? (n : Int) : Option Int :=
  if Int64.minValue.toInt ≤ n ∧ n ≤ Int64.maxValue.toInt then some n else none

theorem number_digits (n : Nat) : number (digits n) = n :=
  Nat.ofDigitChars_ten_toDigits

theorem all_isDigit_digits (n : Nat) : (digits n).all Char.isDigit = true := by
  simp only [List.all_eq_true]
  exact fun c h => Nat.isDigit_of_mem_toDigits (by decide) (by decide) h

theorem isDigit_of_mem_digits {n : Nat} {c : Char} (h : c ∈ digits n) : c.isDigit = true :=
  List.all_eq_true.1 (all_isDigit_digits n) c h

/-- No digit is a blank, a separator or an end of a line. -/
theorem ne_of_isDigit {c d : Char} (h : c.isDigit = true) (hd : d.isDigit = false) : c ≠ d := by
  rintro rfl
  rw [h] at hd
  cases hd

theorem digits_ne_nil (n : Nat) : digits n ≠ [] :=
  Nat.toDigits_ne_nil

theorem number?_eq_some_iff {s : Text} {n : Nat} :
    number? s = some n ↔ s ≠ [] ∧ (∀ c ∈ s, c.isDigit = true) ∧ number s = n := by
  simp only [number?]
  split <;> rename_i h
  · simp_all
  · simp only [List.all_eq_true] at h
    simp only [reduceCtorEq, false_iff]
    exact fun ⟨h1, h2, _⟩ => h ⟨h1, h2⟩

theorem number?_digits (n : Nat) : number? (digits n) = some n := by
  simp [number?, digits_ne_nil, all_isDigit_digits, number_digits]

section ZeroPadded

variable {width n : Nat}

theorem isDigit_of_mem_zeroPadded {c : Char} (h : c ∈ zeroPadded width n) : c.isDigit = true := by
  rcases List.mem_append.1 h with h | h
  · rw [List.eq_of_mem_replicate h]
    rfl
  · exact isDigit_of_mem_digits h

theorem zeroPadded_ne_nil (width n : Nat) : zeroPadded width n ≠ [] :=
  List.append_ne_nil_of_right_ne_nil _ (digits_ne_nil n)

theorem length_zeroPadded (h : (digits n).length ≤ width) :
    (zeroPadded width n).length = width := by
  simp only [zeroPadded, List.length_append, List.length_replicate]
  omega

theorem number_zeroPadded (width n : Nat) : number (zeroPadded width n) = n := by
  rw [zeroPadded, number, Nat.ofDigitChars_append, Nat.ofDigitChars_replicate_zero, Nat.mul_zero]
  exact number_digits n

theorem number?_zeroPadded (width n : Nat) : number? (zeroPadded width n) = some n :=
  number?_eq_some_iff.2 ⟨zeroPadded_ne_nil width n, fun _ => isDigit_of_mem_zeroPadded,
    number_zeroPadded width n⟩

end ZeroPadded

end Ftp.Decimal
