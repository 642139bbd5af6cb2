import Ftp.Toml.Value

/-!
# Expressions of a TOML document

Values as they are written. What an expression stands for is found out only when it is needed: its
moments are words yet, and its tables may give a key twice. Nothing but the first key matters in a
table that is a moment in disguise.
-/

namespace Ftp.Toml

inductive Expression where
  | string (text : Text)
  | integer (number : Int)
  | float (number : Float)
  | boolean (truth : Bool)
  /-- The words of a date or a time. -/
  | moment (words : Text)
  | array (items : List Expression)
  /-- A table is open if dotted keys add to it. -/
  | table (isOpen : Bool) (entries : List (Text × Expression))
  deriving Inhabited

namespace Expression

/-! ## Keys -/

/-- Adds what is written under a dotted key. The key passes through open tables only, which are made
on the way. -/
def add? (expression : Expression) : (key : List Text) → Entries Expression →
    Option (Entries Expression)
  | [], _ => none
  | [last], entries => some (entries ++ [(last, expression)])
  | first :: rest, entries =>
    match entries.get? first with
    | none => (add? expression rest []).map fun below => entries.put first (.table true below)
    | some (.table true below) =>
      (add? expression rest below).map fun below => entries.put first (.table true below)
    | some _ => none

/-! ## Values -/

/-- The moment that a string spells. -/
def momentValue? : Expression → Option Value
  | .string text => (Moment.ofText? text).map .moment
  | _ => none

mutual

/-- The value that an expression stands for, if there is nothing wrong in it. -/
def value? : Expression → Option Value
  | .string text => some (.string text)
  | .integer number => some (.integer number)
  | .float number => some (.float number)
  | .boolean truth => some (.boolean truth)
  | .moment words => (Moment.ofText? words).map .moment
  | .array items => (itemValues? items).map (.array false)
  | .table _ entries =>
    match entries.head? with
    | some (key, first) =>
      if key = momentKey then momentValue? first
      else (entryValues? entries).map (.table .complete)
    | none => some (.table .complete [])

def itemValues? : List Expression → Option (List Value)
  | [] => some []
  | item :: items => do
    let value ← value? item
    let values ← itemValues? items
    return value :: values

/-- The entries of a table, in which no key is given twice. -/
def entryValues? : Entries Expression → Option Table
  | [] => some []
  | (key, expression) :: entries => do
    let value ← value? expression
    let values ← entryValues? entries
    if (values.get? key).isSome then none else some ((key, value) :: values)

end

end Expression

end Ftp.Toml
