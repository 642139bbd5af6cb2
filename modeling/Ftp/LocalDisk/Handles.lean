import Ftp.Request

/-!
# File handles

Open files under handles that a 32-bit counter gives out.
-/

namespace Ftp

/-- What is open, by handle. -/
structure Handles (α : Type) where
  /-- The handle that was given out last. -/
  last : UInt32 := 0
  entries : List (File × α) := []

namespace Handles

variable {α : Type} (handles : Handles α)

/-- The handle that is given out next. After the greatest word the counter starts again. -/
def next : File :=
  ⟨handles.last + 1⟩

def get? (file : File) : Option α :=
  handles.entries.lookup file

/-- Forgets what the handle denotes. -/
def erase (file : File) : Handles α :=
  { handles with entries := handles.entries.filter fun entry => entry.1 ≠ file }

/-- Lets the handle denote `value`, whatever it denoted before. -/
def set (file : File) (value : α) : Handles α :=
  { handles with entries := (file, value) :: (handles.erase file).entries }

/-- Gives out the next handle for `value`. -/
def issue (value : α) : File × Handles α :=
  (handles.next, { handles.set handles.next value with last := handles.last + 1 })

/-- The number of handles that denote something. -/
def size : Nat :=
  handles.entries.length

theorem get?_set_self (file : File) (value : α) :
    (handles.set file value).get? file = some value := by
  simp [get?, set]

theorem get?_erase_self (file : File) : (handles.erase file).get? file = none := by
  refine List.lookup_eq_none_iff.2 fun entry h => ?_
  have := of_decide_eq_true (List.mem_filter.1 h).2
  exact bne_iff_ne.2 (Ne.symm this)

theorem get?_erase_of_ne {file other : File} (h : other ≠ file) :
    (handles.erase file).get? other = handles.get? other := by
  obtain ⟨last, entries⟩ := handles
  simp only [get?, erase]
  induction entries with
  | nil => rfl
  | cons entry entries ih =>
    obtain ⟨first, value⟩ := entry
    by_cases hfirst : first = file
    · have hne : (other == first) = false := beq_eq_false_iff_ne.2 (hfirst ▸ h)
      rw [List.filter_cons_of_neg (by simpa using hfirst), List.lookup_cons, hne]
      exact ih
    · rw [List.filter_cons_of_pos (by simpa using hfirst), List.lookup_cons, List.lookup_cons, ih]

theorem get?_set_of_ne {file other : File} (value : α) (h : other ≠ file) :
    (handles.set file value).get? other = handles.get? other := by
  have hne : (other == file) = false := beq_eq_false_iff_ne.2 h
  rw [← handles.get?_erase_of_ne h, get?, set, List.lookup_cons, hne]
  rfl

theorem get?_issue_self (value : α) :
    (handles.issue value).2.get? handles.next = some value :=
  handles.get?_set_self handles.next value

theorem get?_issue_of_ne {other : File} (value : α) (h : other ≠ handles.next) :
    (handles.issue value).2.get? other = handles.get? other :=
  handles.get?_set_of_ne value h

end Handles

end Ftp
