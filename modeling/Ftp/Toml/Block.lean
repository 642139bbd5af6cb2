import Ftp.Toml.Expression

/-!
# Blocks of a TOML document

A header begins a block of keys. The blocks of a document make up its table one after the other, in
the order of the document, except that blocks below a moment wait for the next element of its array.
`length_passOn` says that none of them gets lost.
-/

namespace Ftp.Toml

/-- What is written under one header. -/
structure Block where
  path : List Text
  /-- The header has double brackets: its path leads to an array, which gets another table. -/
  isElement : Bool
  entries : Entries Expression := []

namespace Table

/-- Puts a table or an array of tables under a key. It cannot be the text of a moment. -/
def place (key : Text) (value : Value) (table : Table) : Option Table :=
  if table.isEmpty ∧ key = momentKey then none else some (table.put key value)

/-- Adds entries with new keys at the end. -/
def extend (table more : Table) : Option Table :=
  if more.any fun entry => (table.get? entry.1).isSome then none else some (table ++ more)

/-- Changes the table that the path leads to from this one. A missing table is made on the way, and
an open array stands for its last table. -/
def update (change : Table → Option Table) : (path : List Text) → Table → Option Table
  | [], table => change table
  | key :: path, table =>
    match table.get? key with
    | none => (update change path []).bind fun below => table.place key (.table .implied below)
    | some (.table .complete _) => none
    | some (.table origin below) =>
      (update change path below).map fun below => table.put key (.table origin below)
    | some (.array true items) =>
      match items.getLast? with
      | some (.table origin below) =>
        (update change path below).map fun below =>
          table.put key (.array true (items.dropLast ++ [.table origin below]))
      | _ => none
    | some _ => none

/-- Adds the table of a header. It may have been implied before, but not been begun. -/
def addTable (entries : Entries Expression) (key : Text) (table : Table) : Option Table :=
  match table.get? key with
  | none => do table.place key (← Expression.value? (.table false entries)).headed
  | some (.table .implied below) => do
    let below ← extend below (← Expression.entryValues? entries)
    return table.put key (.table .header below)
  | some _ => none

/-- Adds a table to the array of a header with double brackets. -/
def addElement (entries : Entries Expression) (key : Text) (table : Table) : Option Table := do
  let element := (← Expression.value? (.table false entries)).headed
  match table.get? key with
  | none => table.place key (.array true [element])
  | some (.array true items) => return table.put key (.array true (items ++ [element]))
  | some _ => none

end Table

namespace Block

/-! ## Order -/

/-- The block begins an element of an array, and the element is a moment in disguise. -/
def isMomentElement (block : Block) : Bool :=
  block.isElement && block.entries.head?.any fun entry => entry.1 = momentKey

/-- The block ends the element that the path leads to, because another one begins in its array or in
one around it. -/
def ends (path : List Text) (block : Block) : Bool :=
  block.isElement && block.path.isPrefixOf path

/-- The path of the block passes through what the given path leads to. -/
def isBelow (path : List Text) (block : Block) : Bool :=
  path.isPrefixOf block.path && block.path ≠ path

/-- What comes after a moment in the array of the path. There can be no table in a moment: blocks
below it belong to the next element, if the array has one. -/
def passOn (path : List Text) (blocks : List Block) : List Block :=
  let between := blocks.takeWhile fun block => !block.ends path
  match blocks.dropWhile fun block => !block.ends path with
  | [] => blocks
  | next :: after =>
    if next.path = path then
      let below := between.filter (isBelow path)
      let others := between.filter fun block => !block.isBelow path
      others ++ next :: below ++ after
    else blocks

theorem length_passOn (path : List Text) (blocks : List Block) :
    (passOn path blocks).length = blocks.length := by
  have whole := congrArg List.length
    (List.takeWhile_append_dropWhile (p := fun block => !block.ends path) (l := blocks))
  simp only [passOn]
  split
  · rfl
  · rename_i next after heq
    split
    · have parts := List.length_eq_countP_add_countP (isBelow path)
        (l := blocks.takeWhile fun block => !block.ends path)
      simp only [List.countP_eq_length_filter, Bool.not_eq_true, Bool.decide_eq_false] at parts
      simp only [heq, List.length_append, List.length_cons] at whole ⊢
      omega
    · rfl

/-- The blocks in the order in which they make up the table of the document. -/
def arrange : List Block → List Block
  | [] => []
  | block :: blocks =>
    if block.isMomentElement then
      have := length_passOn block.path blocks
      block :: arrange (passOn block.path blocks)
    else block :: arrange blocks
termination_by blocks => blocks.length

/-! ## Tables -/

/-- Adds what the block says to the table of the document. -/
def addTo (root : Table) (block : Block) : Option Table :=
  match block.path.getLast? with
  | some key =>
    let change := if block.isElement then Table.addElement else Table.addTable
    root.update (change block.entries key) block.path.dropLast
  | none => none

end Block

/-- The value of a document that begins with entries of its own. Its blocks matter only if it is a
table, and no moment in disguise. -/
def documentValue? (entries : Entries Expression) (blocks : List Block) : Option Value := do
  match ← Expression.value? (.table false entries) with
  | .table _ root => return .table .header (← (Block.arrange blocks).foldlM Block.addTo root)
  | value => return value

end Ftp.Toml
