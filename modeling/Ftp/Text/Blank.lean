import Ftp.Text

/-!
# Blank characters

The two classes of blanks that command lines know: the space and the tab, which part a verb from its
argument, and the white space of Unicode, at which the verb itself ends and which surrounds numbers.
-/

namespace Ftp.Text

/-- A space or a tab. -/
def isPadding (c : Char) : Bool :=
  c = ' ' || c = '\t'

/-- The characters with the Unicode property `White_Space`. -/
def whiteSpace : List Nat :=
  [0x09, 0x0A, 0x0B, 0x0C, 0x0D, 0x20, 0x85, 0xA0, 0x1680, 0x2000, 0x2001, 0x2002, 0x2003, 0x2004,
    0x2005, 0x2006, 0x2007, 0x2008, 0x2009, 0x200A, 0x2028, 0x2029, 0x202F, 0x205F, 0x3000]

/-- The character has the Unicode property `White_Space`. -/
def isBlank (c : Char) : Bool :=
  whiteSpace.contains c.toNat

theorem isBlank_of_isPadding {c : Char} (h : isPadding c = true) : isBlank c = true := by
  simp only [isPadding, Bool.or_eq_true, decide_eq_true_eq] at h
  rcases h with rfl | rfl <;> decide

/-- No digit and no letter of ASCII is white space. -/
theorem isBlank_eq_false_of_toNat {c : Char} (hlow : 48 ≤ c.toNat) (hhigh : c.toNat ≤ 122) :
    isBlank c = false := by
  have hwhite : ∀ n ∈ whiteSpace, n < 48 ∨ 122 < n := by decide
  rw [isBlank, Bool.eq_false_iff]
  intro hblank
  have := hwhite _ (List.contains_iff_mem.1 hblank)
  omega

end Ftp.Text
