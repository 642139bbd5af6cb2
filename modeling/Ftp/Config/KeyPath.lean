import Ftp.Config.Tree
import Ftp.Text.Blank
import Ftp.Text.Decimal

/-!
# Key paths

A key of a configuration may lead into the tables and lists below it: `accounts[0].name` is the name
of the first account. A key that does not read as a path is one name as a whole.
-/

namespace Ftp.Config

/-- One step down into a tree. -/
inductive Step where
  | entry (key : Text)
  | item (index : Int)
  deriving DecidableEq, Repr

/-- The way to a place in a tree. It begins with a key of the outermost table. -/
abbrev KeyPath := List Step

namespace KeyPath

/-! ## Reading -/

/-- The characters of names in a path. -/
def isNameChar (c : Char) : Bool :=
  c.isAlphanum || c = '_' || c = '-' || c = ' '

/-- A name at the start, and what follows it. -/
def name? (text : Text) : Option (Text × Text) :=
  match text.span isNameChar with
  | ([], _) => none
  | (name, rest) => some (name, rest)

/-- An index with blanks around it and its closing bracket, and what follows. Indices are signed
words. -/
def index? (text : Text) : Option (Int × Text) := do
  let text := text.dropWhile Text.isPadding
  let (negative, text) := match text with
    | '-' :: rest => (true, rest)
    | _ => (false, text)
  let (digits, rest) := text.span Char.isDigit
  let n ← Decimal.number? digits
  let index ← Decimal.signedWord? (if negative then -n else n)
  let rest ← Text.after? [']'] (rest.dropWhile Text.isPadding)
  return (index, rest)

/-- The steps that a text describes, all of it. -/
def steps? : (fuel : Nat) → Text → Option (List Step)
  | _, [] => some []
  | 0, _ => none
  | fuel + 1, '.' :: text => do
    let (name, rest) ← name? text
    return .entry name :: (← steps? fuel rest)
  | fuel + 1, '[' :: text => do
    let (index, rest) ← index? text
    return .item index :: (← steps? fuel rest)
  | _, _ => none

/-- The path that a key describes. -/
def ofKey (key : Text) : KeyPath :=
  match name? key with
  | none => [.entry key]
  | some (name, rest) =>
    match steps? rest.length rest with
    | some steps => .entry name :: steps
    | none => [.entry key]

end KeyPath

/-! ## Changes -/

/-- Puts the value where the path leads. Whatever is missing on the way is made, and what is in the
way is replaced. -/
def Tree.putAt (value : Tree) : KeyPath → Tree → Tree
  | [], _ => value
  | [.entry key], tree => tree.put key value
  | .entry key :: steps, tree => tree.changeEntry key (putAt value steps)
  | .item index :: steps, tree => tree.changeItem index (putAt value steps)

end Ftp.Config
