import Ftp.Text

/-!
# Entries

Values by key, in the order in which the keys came. `get?_put_self` and `get?_put_of_ne` say what a
key stands for after a change.
-/

namespace Ftp

/-- Keys with their values. -/
abbrev Entries (α : Type) := List (Text × α)

namespace Entries

variable {α : Type}

/-- The value of the key. -/
def get? (entries : Entries α) (key : Text) : Option α :=
  entries.lookup key

/-- The entry of the key becomes `value`; a new key goes to the end. -/
def put (key : Text) (value : α) : Entries α → Entries α
  | [] => [(key, value)]
  | entry :: entries =>
    if entry.1 = key then (key, value) :: entries else entry :: put key value entries

theorem get?_put_self (key : Text) (value : α) (entries : Entries α) :
    (put key value entries).get? key = some value := by
  induction entries with
  | nil => simp [put, get?]
  | cons entry entries ih =>
    obtain ⟨first, there⟩ := entry
    by_cases h : first = key
    · simp [put, get?, h]
    · have hne : (key == first) = false := by simpa using Ne.symm h
      simpa [put, get?, h, List.lookup_cons, hne] using ih

theorem get?_put_of_ne {key other : Text} (h : other ≠ key) (value : α) (entries : Entries α) :
    (put key value entries).get? other = entries.get? other := by
  have hne : (other == key) = false := by simpa using h
  induction entries with
  | nil => simp [put, get?, List.lookup_cons, hne]
  | cons entry entries ih =>
    obtain ⟨first, there⟩ := entry
    by_cases hf : first = key
    · subst hf
      simp [put, get?, List.lookup_cons, hne]
    · simp only [get?] at ih
      simp [put, get?, hf, List.lookup_cons, ih]

end Entries

end Ftp
