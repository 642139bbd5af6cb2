import Ftp.Config
import Ftp.Config.Tree
import Ftp.Text.Quoted
import Ftp.Text.Shortest

/-!
# Fields of a configuration

How the fields get their types. Values are converted where that makes sense: a number may be written
as a text, and the variables of the environment always are.
-/

namespace Ftp

/-- Why a configuration cannot be loaded. -/
inductive LoadError where
  /-- The document is not TOML. -/
  | notToml
  /-- A value cannot be converted to the type of its field. -/
  | wrongType
  | invalidAddress
  | missingField (name : String)
  /-- A value of some other kind stands where something else is expected. -/
  | unexpected (found expected : String)
  | tooFewItems (count : Nat)
  | unknownRight (name : Text)
  | malformedRight
  /-- The configuration is not valid. -/
  | invalid (fault : ConfigFault)
  deriving DecidableEq, Repr

/-- What is said of the error. Values and documents that cannot be read are not described. -/
def LoadError.message : LoadError → String
  | .notToml => ""
  | .wrongType => ""
  | .invalidAddress => "invalid IPv4 address syntax"
  | .missingField name => "missing field \x60" ++ name ++ "\x60"
  | .unexpected found expected => s!"invalid type: {found}, expected {expected}"
  | .tooFewItems count => s!"invalid length {count}, expected struct AccountConfig with 4 elements"
  | .unknownRight name => s!"enum Right does not have variant constructor {String.ofList name}"
  | .malformedRight =>
    "value of enum Right should be represented by either string or table with exactly one key"
  | .invalid fault => fault.message

namespace Config

/-! ## Scalars -/

def trueWords : List Text := ["true", "on", "yes"]

def falseWords : List Text := ["false", "off", "no"]

/-- A natural number below `2 ^ 64`. -/
def word64? (n : Nat) : Except LoadError UInt64 :=
  if n < UInt64.size then .ok (UInt64.ofNat n) else .error .wrongType

/-- A word of 64 bits. Truth values count as one and zero, and fractions are rounded. -/
def asWord : Tree → Except LoadError UInt64
  | .integer n => if 0 ≤ n then word64? n.toNat else .error .wrongType
  | .text text =>
    let lower := Text.asciiLower text
    if trueWords.contains lower then .ok 1
    else if falseWords.contains lower then .ok 0
    else
      match Decimal.unsigned? lower with
      | some n => word64? n
      | none => .error .wrongType
  | .truth truth => .ok (if truth then 1 else 0)
  | .fraction number => .ok number.round.toUInt64
  | _ => .error .wrongType

/-- The low 16 bits of a word. -/
def asPort (tree : Tree) : Except LoadError UInt16 :=
  (asWord tree).map UInt64.toUInt16

/-- A truth value. Every number but zero counts as true. -/
def asBool : Tree → Except LoadError Bool
  | .truth truth => .ok truth
  | .integer n => .ok (n ≠ 0)
  | .fraction number => .ok (number != 0.0)
  | .text text =>
    let lower := Text.asciiLower text
    if lower = ['1'] ∨ trueWords.contains lower then .ok true
    else if lower = ['0'] ∨ falseWords.contains lower then .ok false
    else .error .wrongType
  | _ => .error .wrongType

/-- A text. Numbers and truth values are written out. -/
def asText : Tree → Except LoadError Text
  | .text text => .ok text
  | .integer n => .ok (Decimal.signed n)
  | .truth truth => .ok (if truth then "true" else "false")
  | .fraction number => .ok (Shortest.text number)
  | _ => .error .wrongType

def asAddress (tree : Tree) : Except LoadError IPv4 := do
  match IPv4.ofText? (← asText tree) with
  | some ip => return ip
  | none => throw .invalidAddress

/-! ## Lists and accounts -/

/-- A fractional number, with a point even if it is whole. -/
def pointed (number : Float) : Text :=
  let text := Shortest.text number
  if text.contains '.' ∨ ¬ number.isFinite then text else text ++ ".0".toList

/-- What kind of value was found, with the value itself if it is a scalar. -/
def describe : Tree → String
  | .nothing => "unit value"
  | .text text => "string " ++ String.ofList (Text.quoted text)
  | .integer n => s!"integer \x60{n}\x60"
  | .fraction number => "floating point \x60" ++ String.ofList (pointed number) ++ "\x60"
  | .truth truth => s!"boolean \x60{truth}\x60"
  | .list _ => "sequence"
  | .table _ => "map"

/-- The items of a list, each converted. -/
def asList {α : Type} (convert : Tree → Except LoadError α) : Tree → Except LoadError (List α)
  | .list items => items.mapM convert
  | tree => .error (.unexpected (describe tree) "a sequence")

def right? (name : Text) : Except LoadError Right :=
  if name = "read".toList then .ok .read
  else if name = "write".toList then .ok .write
  else if name = "list".toList then .ok .list
  else if name = "dir".toList then .ok .dir
  else .error (.unknownRight name)

/-- A right, by its name. -/
def asRight : Tree → Except LoadError Right
  | .text name => right? name
  | .table [(name, _)] => right? name
  | _ => .error .malformedRight

def asRights (tree : Tree) : Except LoadError Rights :=
  (asList asRight tree).map Rights.ofList

/-- The converted value of a field, or its default. -/
def fieldOr {α : Type} (default : α) (convert : Tree → Except LoadError α) (tree : Option Tree) :
    Except LoadError α :=
  match tree with
  | some tree => convert tree
  | none => .ok default

/-- The value of a field that must be given. -/
def required {α : Type} (error : LoadError) : Option α → Except LoadError α
  | some value => .ok value
  | none => .error error

/-- An account from the values of its fields, and from the errors that a missing name or root
makes. -/
def account (name password root rights : Option Tree) (noName noRoot : LoadError) :
    Except LoadError Account := do
  let name ← fieldOr none (fun tree => some <$> asText tree) name
  let password ← fieldOr [] asText password
  let root ← fieldOr none (fun tree => some <$> asText tree) root
  let rights ← fieldOr .empty asRights rights
  let name ← required noName name
  let root ← required noRoot root
  return { name, password, root, rights }

/-- An account: a table, or a list with its fields in order. -/
def asAccount : Tree → Except LoadError Account
  | .table entries =>
    let field := fun key => Entries.get? entries key
    account (field "name") (field "password") (field "root") (field "rights")
      (.missingField "name") (.missingField "root")
  | .list items =>
    account items[0]? items[1]? items[2]? items[3]? (.tooFewItems 0) (.tooFewItems 2)
  | tree => .error (.unexpected (describe tree) "struct AccountConfig")

end Config

end Ftp
