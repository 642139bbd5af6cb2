import Ftp.Entries
import Ftp.Toml.Moment

/-!
# Values of a TOML document

Tables and arrays remember how they came about, since that decides what a later header of the
document may still add to them.
-/

namespace Ftp.Toml

/-- How a table came about. -/
inductive Origin where
  /-- A header named a table below it. -/
  | implied
  /-- A header named it, or an element of an array of tables. -/
  | header
  /-- It is written in braces, or by dotted keys. No header adds to it. -/
  | complete
  deriving DecidableEq, Repr

inductive Value where
  | string (text : Text)
  | integer (number : Int)
  | float (number : Float)
  | boolean (truth : Bool)
  | moment (moment : Moment)
  /-- An array is open if headers with double brackets add tables to it. -/
  | array (isOpen : Bool) (items : List Value)
  | table (origin : Origin) (entries : List (Text × Value))
  deriving Inhabited

/-- The entries of a table in the order of the document. -/
abbrev Table := Entries Value

namespace Value

/-- The entries of a table. Anything else counts as a table without entries. -/
def entries : Value → Table
  | .table _ below => below
  | _ => []

/-- A table to which headers may add tables. Anything else stays as it is. -/
def headed : Value → Value
  | .table _ below => .table .header below
  | value => value

end Value

/-- A table that begins with this key is a moment in disguise: the key stands for the text of the
moment, and the rest of the table counts for nothing. -/
def momentKey : Text := "$__toml_private_datetime"

end Ftp.Toml
