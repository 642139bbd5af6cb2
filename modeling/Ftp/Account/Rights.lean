/-!
# Access rights

What an account may do. A command runs only for an account that holds every right it needs.
-/

namespace Ftp

/-- One right, as a configuration names it. -/
inductive Right where
  /-- Download files and query their metadata. -/
  | read
  /-- Upload, delete, create and remove. -/
  | write
  /-- List directory contents. -/
  | list
  /-- Change the working directory. -/
  | dir
  deriving DecidableEq, Repr

/-- A set of rights. -/
structure Rights where
  read : Bool := false
  write : Bool := false
  list : Bool := false
  dir : Bool := false
  deriving DecidableEq, Repr, Inhabited

namespace Rights

def empty : Rights := {}

def all : Rights := ⟨true, true, true, true⟩

def has (rights : Rights) : Right → Bool
  | .read => rights.read
  | .write => rights.write
  | .list => rights.list
  | .dir => rights.dir

def insert (rights : Rights) : Right → Rights
  | .read => { rights with read := true }
  | .write => { rights with write := true }
  | .list => { rights with list := true }
  | .dir => { rights with dir := true }

/-- The set of the listed rights. -/
def ofList (rights : List Right) : Rights :=
  rights.foldl insert empty

/-- Every right of `needed` is held. -/
def contains (held needed : Rights) : Bool :=
  (!needed.read || held.read) && (!needed.write || held.write) && (!needed.list || held.list) &&
    (!needed.dir || held.dir)

/-- The set as a number, with one binary digit for each right. -/
def bits (rights : Rights) : Nat :=
  rights.read.toNat + 2 * rights.write.toNat + 4 * rights.list.toNat + 8 * rights.dir.toNat

theorem contains_iff {held needed : Rights} :
    held.contains needed = true ↔ ∀ right, needed.has right = true → held.has right = true := by
  constructor
  · intro h right hr
    cases right <;> simp_all [contains, has]
  · intro h
    have read := h .read
    have write := h .write
    have list := h .list
    have dir := h .dir
    cases hr : needed.read <;> cases hw : needed.write <;> cases hl : needed.list <;>
      cases hd : needed.dir <;> simp_all [contains, has]

end Rights

end Ftp
