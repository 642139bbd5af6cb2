import Ftp.Entries
import Ftp.Toml.Value

/-!
# Configuration trees

The values of a configuration before they are given their types: what a document and the environment
say, put together.
-/

namespace Ftp.Config

inductive Tree where
  /-- A place in a list that nothing was put into. -/
  | nothing
  | text (text : Text)
  | integer (number : Int)
  | fraction (number : Float)
  | truth (truth : Bool)
  | list (items : List Tree)
  | table (entries : List (Text × Tree))
  deriving Inhabited

namespace Tree

/-- The entries of a table. Anything else counts as a table without entries. -/
def entries : Tree → Entries Tree
  | .table below => below
  | _ => []

/-- The items of a list. Anything else counts as a list without items. -/
def items : Tree → List Tree
  | .list below => below
  | _ => []

/-! ## Documents -/

mutual

/-- A value of a document. Moments are texts here. -/
def ofValue : Toml.Value → Tree
  | .string s => .text s
  | .integer n => .integer n
  | .float x => .fraction x
  | .boolean b => .truth b
  | .moment moment => .text moment.text
  | .array _ below => .list (ofItems below)
  | .table _ below => .table (ofEntries below)

def ofItems : List Toml.Value → List Tree
  | [] => []
  | item :: items => ofValue item :: ofItems items

def ofEntries : Entries Toml.Value → Entries Tree
  | [] => []
  | (key, value) :: entries => (key, ofValue value) :: ofEntries entries

end

/-! ## Changes -/

mutual

/-- The table with `value` under the key. The entries of a table are put one by one into the table
that is there already. -/
def put (key : Text) (tree : Tree) : (value : Tree) → Tree
  | .table below =>
    let there := (tree.entries.get? key).getD (.table [])
    .table (tree.entries.put key (putAll there below))
  | value => .table (tree.entries.put key value)

/-- Puts entries into a table one by one. -/
def putAll (tree : Tree) : Entries Tree → Tree
  | [] => tree
  | (key, value) :: entries => putAll (put key tree value) entries

end

/-- Changes what a table holds under the key, which is nothing if it is new. -/
def changeEntry (key : Text) (change : Tree → Tree) (tree : Tree) : Tree :=
  .table (tree.entries.put key (change ((tree.entries.get? key).getD .nothing)))

/-- The place in a list that an index stands for. A negative index counts from the end. -/
def position (length : Nat) (index : Int) : Nat :=
  if index < 0 then length - index.natAbs else index.natAbs

/-- Changes the item of a list at the index. The list grows up to there. -/
def changeItem (index : Int) (change : Tree → Tree) (tree : Tree) : Tree :=
  let place := position tree.items.length index
  let items := tree.items ++ List.replicate (place + 1 - tree.items.length) .nothing
  .list (items.modify place change)

end Tree

end Ftp.Config
