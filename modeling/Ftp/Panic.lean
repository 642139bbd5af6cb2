/-!
# Panics

Two mistakes end the program where they are made, with no answer that a caller could look at: a sum
or difference that is no machine word, and asking at once for more memory than the greatest signed
word counts bytes. What can end so has an outcome in `Except Panic`.
-/

namespace Ftp

/-- What ends the program. -/
inductive Panic where
  | sumOverflow
  | differenceOverflow
  | capacityOverflow
  deriving DecidableEq, Repr

def Panic.message : Panic → String
  | .sumOverflow => "attempt to add with overflow"
  | .differenceOverflow => "attempt to subtract with overflow"
  | .capacityOverflow => "capacity overflow"

namespace Panic

variable {α β : Type} {outcome : Except Panic α} {value : β} {panic : Panic}

theorem bind_eq_ok_iff {next : α → Except Panic β} :
    outcome >>= next = .ok value ↔ ∃ a, outcome = .ok a ∧ next a = .ok value := by
  cases outcome <;> simp [bind, Except.bind]

theorem bind_eq_error_iff {next : α → Except Panic β} :
    outcome >>= next = .error panic ↔
      outcome = .error panic ∨ ∃ a, outcome = .ok a ∧ next a = .error panic := by
  cases outcome <;> simp [bind, Except.bind]

theorem map_eq_ok_iff {f : α → β} :
    outcome.map f = .ok value ↔ ∃ a, outcome = .ok a ∧ f a = value := by
  cases outcome <;> simp [Except.map]

theorem map_eq_error_iff {f : α → β} : outcome.map f = .error panic ↔ outcome = .error panic := by
  cases outcome <;> simp [Except.map]

end Panic

/-- The sum, if it is a machine word. -/
def checkedSum (a b : UInt64) : Except Panic UInt64 :=
  if a.toNat + b.toNat < UInt64.size then .ok (a + b) else .error .sumOverflow

/-- The difference, if it is a machine word. -/
def checkedDifference (a b : UInt64) : Except Panic UInt64 :=
  if b ≤ a then .ok (a - b) else .error .differenceOverflow

/-- So many items, of so many bytes each, may be asked for at once. -/
def Allocatable (count itemSize : Nat) : Prop :=
  count * itemSize < UInt64.size / 2

instance {count itemSize : Nat} : Decidable (Allocatable count itemSize) :=
  inferInstanceAs (Decidable (_ < _))

/-- What is made of so many items, if they may be asked for. -/
def allocate {α : Type} (count itemSize : Nat) (made : α) : Except Panic α :=
  if Allocatable count itemSize then .ok made else .error .capacityOverflow

variable {α : Type} {a b c : UInt64} {count itemSize : Nat} {made value : α} {panic : Panic}

theorem checkedSum_eq_ok_iff : checkedSum a b = .ok c ↔ a.toNat + b.toNat = c.toNat := by
  have hlt : c.toNat < UInt64.size := c.toNat_lt
  by_cases h : a.toNat + b.toNat < UInt64.size
  · simp [checkedSum, h, ← UInt64.toNat_inj, Nat.mod_eq_of_lt h]
  · simp only [checkedSum, h, if_false, reduceCtorEq, false_iff]
    omega

theorem checkedSum_eq_error_iff :
    checkedSum a b = .error panic ↔ UInt64.size ≤ a.toNat + b.toNat ∧ panic = .sumOverflow := by
  by_cases h : a.toNat + b.toNat < UInt64.size
  · simp [checkedSum, h, Nat.not_le.2 h]
  · simp [checkedSum, h, Nat.not_lt.1 h, eq_comm]

theorem checkedDifference_eq_ok_iff :
    checkedDifference a b = .ok c ↔ a.toNat = c.toNat + b.toNat := by
  by_cases h : b ≤ a
  · have hle := UInt64.le_iff_toNat_le.1 h
    simp only [checkedDifference, h, if_true, Except.ok.injEq, ← UInt64.toNat_inj,
      UInt64.toNat_sub_of_le _ _ h]
    omega
  · have hlt := UInt64.not_le.1 h
    simp only [checkedDifference, h, if_false, reduceCtorEq, false_iff]
    rw [UInt64.lt_iff_toNat_lt] at hlt
    omega

theorem checkedDifference_eq_error_iff :
    checkedDifference a b = .error panic ↔ a.toNat < b.toNat ∧ panic = .differenceOverflow := by
  rw [← UInt64.lt_iff_toNat_lt, ← UInt64.not_le]
  by_cases h : b ≤ a <;> simp [checkedDifference, h, eq_comm]

theorem allocate_eq_ok_iff :
    allocate count itemSize made = .ok value ↔ Allocatable count itemSize ∧ made = value := by
  by_cases h : Allocatable count itemSize <;> simp [allocate, h]

theorem allocate_eq_error_iff :
    allocate count itemSize made = .error panic ↔
      ¬Allocatable count itemSize ∧ panic = .capacityOverflow := by
  by_cases h : Allocatable count itemSize <;> simp [allocate, h, eq_comm]

end Ftp
