import Ftp.Toml.Block
import Ftp.Toml.Quoted

/-!
# Reading a TOML document

A document is read line by line: a header begins a block, and the following keys belong to it. All
of a document is read before anything is made of it, so that no mistake in its form is passed over.
-/

namespace Ftp.Toml

/-- Skips blanks within a line. -/
def skipBlanks (text : Text) : Text :=
  text.dropWhile Text.isPadding

/-- Skips a comment, up to the end of its line. -/
def skipComment : Text → Text
  | '#' :: rest => rest.dropWhile isPrintable
  | text => text

/-- Goes to the next line after blanks and a comment. Anything else on the line is a mistake. -/
def endLine? (text : Text) : Option Text :=
  match skipComment (skipBlanks text) with
  | [] => some []
  | '\n' :: rest => some rest
  | _ => none

/-- Skips blanks, comments and line ends. -/
def skipLines : (fuel : Nat) → Text → Text
  | 0, text => text
  | fuel + 1, text =>
    match skipComment (skipBlanks text) with
    | '\n' :: rest => skipLines fuel rest
    | rest => rest

/-- One segment of a key. -/
def keySegment? : Text → Option (Text × Text)
  | '"' :: rest => basicString? rest
  | '\'' :: rest => literalString? rest
  | text =>
    match text.span isWordChar with
    | ([], _) => none
    | (key, rest) => some (key, rest)

/-- A key: segments with dots between them. -/
def key? : (fuel : Nat) → Text → Option (List Text × Text)
  | 0, _ => none
  | fuel + 1, text =>
    match keySegment? (skipBlanks text) with
    | none => none
    | some (segment, rest) =>
      match skipBlanks rest with
      | '.' :: rest => (key? fuel rest).map fun (key, rest) => (segment :: key, rest)
      | rest => some ([segment], rest)

/-- A key, an equals sign, and what follows it. -/
def keyEquals? (fuel : Nat) (text : Text) : Option (List Text × Text) :=
  match key? fuel text with
  | some (key, '=' :: rest) => some (key, skipBlanks rest)
  | _ => none

mutual

/-- An expression, and what follows it. The fuel is spent on the expressions inside. -/
def expression? (fuel : Nat) (text : Text) : Option (Expression × Text) :=
  match fuel with
  | 0 => none
  | fuel + 1 =>
    match text with
    | '[' :: rest => items? fuel [] (skipLines rest.length rest)
    | '{' :: rest =>
      match skipBlanks rest with
      | '}' :: rest => some (.table false [], rest)
      | rest => pairs? fuel [] rest
    | '"' :: _ => (quoted? text).map fun (s, rest) => (.string s, rest)
    | '\'' :: _ => (quoted? text).map fun (s, rest) => (.string s, rest)
    | _ => scalar? text

/-- The items of an array after those that have been read. -/
def items? (fuel : Nat) (read : List Expression) (text : Text) : Option (Expression × Text) :=
  match fuel with
  | 0 => none
  | fuel + 1 =>
    match text with
    | ']' :: rest => some (.array read, rest)
    | _ =>
      match expression? fuel text with
      | none => none
      | some (item, rest) =>
        match skipLines rest.length rest with
        | ',' :: rest => items? fuel (read ++ [item]) (skipLines rest.length rest)
        | ']' :: rest => some (.array (read ++ [item]), rest)
        | _ => none

/-- The entries of a table in braces after those that have been read. -/
def pairs? (fuel : Nat) (read : Entries Expression) (text : Text) : Option (Expression × Text) :=
  match fuel with
  | 0 => none
  | fuel + 1 =>
    match keyEquals? text.length text with
    | none => none
    | some (key, rest) =>
      match expression? fuel rest with
      | none => none
      | some (expression, rest) =>
        match expression.add? key read, skipBlanks rest with
        | some read, ',' :: rest => pairs? fuel read (skipBlanks rest)
        | some read, '}' :: rest => some (.table false read, rest)
        | _, _ => none

end

/-- A key with what is written under it is added to the block. -/
def keyValue? (block : Block) (text : Text) : Option (Block × Text) := do
  let (key, rest) ← keyEquals? text.length text
  let (expression, rest) ← expression? rest.length rest
  let entries ← expression.add? key block.entries
  return ({ block with entries }, rest)

/-- The block that the header of a table begins, after the bracket. -/
def header? (text : Text) : Option (Block × Text) :=
  match key? text.length text with
  | some (path, ']' :: rest) => some ({ path, isElement := false }, rest)
  | _ => none

/-- The block that the header of an element of an array of tables begins, after the brackets. -/
def elementHeader? (text : Text) : Option (Block × Text) :=
  match key? text.length text with
  | some (path, ']' :: ']' :: rest) => some ({ path, isElement := true }, rest)
  | _ => none

/-- The rest of a block that has been begun, and the blocks after it. -/
def blocks? : (fuel : Nat) → Block → Text → Option (Block × List Block)
  | 0, block, text => if text = [] then some (block, []) else none
  | fuel + 1, block, text =>
    let next := fun (block, rest) => (endLine? rest).bind (blocks? fuel block)
    let begun := fun header => (next header).map fun (first, others) => (block, first :: others)
    match skipLines text.length text with
    | [] => some (block, [])
    | '[' :: '[' :: rest => (elementHeader? rest).bind begun
    | '[' :: rest => (header? rest).bind begun
    | rest => (keyValue? block rest).bind next

/-- The text after a byte order mark, if it begins with one. -/
def dropMark : Text → Text
  | '\uFEFF' :: rest => rest
  | text => text

/-- The text with a newline alone at the end of each line. -/
def unifyLineEnds : Text → Text
  | '\r' :: '\n' :: rest => '\n' :: unifyLineEnds rest
  | c :: rest => c :: unifyLineEnds rest
  | [] => []

/-- The value that a document describes. The entries before the first header are a block of their
own. -/
def parse (text : Text) : Option Value := do
  let text := unifyLineEnds (dropMark text)
  let (first, blocks) ← blocks? (text.length + 1) { path := [], isElement := false } text
  documentValue? first.entries blocks

end Ftp.Toml
