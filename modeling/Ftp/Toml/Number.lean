import Ftp.Toml.Expression

/-!
# Words and numbers of a TOML document

Integers, which are signed 64-bit words, and doubles. A number starts with a word; a point or a plus
sign may join further words to it. Dates and times are words joined by other marks, and are left as
they are here.
-/

namespace Ftp.Toml

/-- The characters of words: of unquoted keys and truth values, and of the parts of numbers. -/
def isWordChar (c : Char) : Bool :=
  c.isAlphanum || c = '_' || c = '-'

/-- A minus sign, and what follows it. -/
def splitMinus : Text → Bool × Text
  | '-' :: rest => (true, rest)
  | word => (false, word)

/-- A magnitude with its sign. -/
def signed (negative : Bool) (magnitude : Nat) : Int :=
  if negative then -magnitude else magnitude

/-! ## Digits -/

/-- One or more digits at the start, without the single underscores between them, and what follows
them. An underscore stands between two digits only. -/
def digits? (isDigit : Char → Bool) : Text → Option (Text × Text)
  | [] => none
  | [c] => if isDigit c then some ([c], []) else none
  | c :: '_' :: rest =>
    if isDigit c then (digits? isDigit rest).map fun (digits, after) => (c :: digits, after)
    else none
  | c :: d :: rest =>
    if ¬ isDigit c then none
    else if isDigit d then
      (digits? isDigit (d :: rest)).map fun (digits, after) => (c :: digits, after)
    else some ([c], d :: rest)

/-- Decimal digits without a leading zero, and what follows them. -/
def wholeDigits? (word : Text) : Option (Text × Text) :=
  match digits? Char.isDigit word with
  | some (digits, after) =>
    if digits.head? = some '0' ∧ digits ≠ ['0'] then none else some (digits, after)
  | none => none

def isHexDigit (c : Char) : Bool :=
  c.isDigit || ('a' ≤ c && c ≤ 'f') || ('A' ≤ c && c ≤ 'F')

def isOctalDigit (c : Char) : Bool :=
  '0' ≤ c && c ≤ '7'

def isBinaryDigit (c : Char) : Bool :=
  c = '0' || c = '1'

def hexValue (c : Char) : Nat :=
  if c.isDigit then c.toNat - '0'.toNat
  else if 'a' ≤ c then c.toNat - 'a'.toNat + 10
  else c.toNat - 'A'.toNat + 10

/-- The number that digits stand for in a base. -/
def baseNumber (base : Nat) (digits : Text) : Nat :=
  digits.foldl (fun n digit => n * base + hexValue digit) 0

/-! ## Integers -/

/-- The integer whose digits in the base are the whole word. -/
def based? (base : Nat) (isDigit : Char → Bool) (word : Text) : Option Int :=
  match digits? isDigit word with
  | some (digits, []) => Decimal.signedWord? (baseNumber base digits)
  | _ => none

/-- The integer that a decimal word stands for. -/
def integer? (word : Text) : Option Int :=
  let (negative, magnitude) := splitMinus word
  match wholeDigits? magnitude with
  | some (digits, []) => Decimal.signedWord? (signed negative (Decimal.number digits))
  | _ => none

/-! ## Doubles -/

def isExponentMark (c : Char) : Bool :=
  c = 'e' || c = 'E'

/-- The digits behind the point, none if there is no point, and what is left of the last word, which
is `after` if there is none. -/
def fraction? (after : Text) : (behind : Option Text) → Option (Text × Text)
  | none => some ([], after)
  | some behind => if after = [] then digits? Char.isDigit behind else none

/-- The exponent that the last word ends with, zero if there is none, and what follows it. A plus
sign in front of it ends the word. -/
def exponent? (suffix rest : Text) : Option (Int × Text) :=
  match suffix with
  | [] => some (0, rest)
  | mark :: power =>
    if ¬ isExponentMark mark then none
    else if power = [] then
      let (power, rest) := ((Text.after? ['+'] rest).getD rest).span isWordChar
      match digits? Char.isDigit power with
      | some (digits, []) => some (Decimal.number digits, rest)
      | _ => none
    else
      let (negative, power) := splitMinus power
      match digits? Char.isDigit power with
      | some (digits, []) => some (signed negative (Decimal.number digits), rest)
      | _ => none

/-- The double nearest to `digits` times ten to the `exponent`, if it is finite. -/
def scaled? (digits : Nat) (exponent : Int) : Option Float :=
  if digits = 0 then some 0.0
  else
    let magnitude := (Decimal.digits digits).length + exponent
    if magnitude < -400 then some 0.0
    else if 400 < magnitude then none
    else
      let number := Float.ofScientific digits (decide (exponent < 0)) exponent.natAbs
      if number.isFinite then some number else none

/-- The double with the word in front of the point and, if there is a point, the word behind it. -/
def float? (word : Text) (behind : Option Text) (rest : Text) : Option (Float × Text) := do
  let (negative, magnitude) := splitMinus word
  let (whole, after) ← wholeDigits? magnitude
  let (fraction, suffix) ← fraction? after behind
  let (exponent, rest) ← exponent? suffix rest
  let number ← scaled? (Decimal.number (whole ++ fraction)) (exponent - fraction.length)
  return (if negative then -number else number, rest)

/-- Infinity, and what is no number. -/
def special? (word : Text) : Option Float :=
  let (negative, magnitude) := splitMinus word
  let number : Option Float :=
    if magnitude = "inf".toList then some (1.0 / 0.0)
    else if magnitude = "nan".toList then some (0.0 / 0.0)
    else none
  number.map fun number => if negative then -number else number

/-! ## Numbers -/

/-- A number at the start, and what follows it. -/
def number? (text : Text) : Option (Expression × Text) :=
  let (word, rest) := text.span isWordChar
  match word, rest with
  | '0' :: 'x' :: digits, _ => (based? 16 isHexDigit digits).map fun n => (.integer n, rest)
  | '0' :: 'o' :: digits, _ => (based? 8 isOctalDigit digits).map fun n => (.integer n, rest)
  | '0' :: 'b' :: digits, _ => (based? 2 isBinaryDigit digits).map fun n => (.integer n, rest)
  | _, _ =>
    if word.any isExponentMark then (float? word none rest).map fun (x, rest) => (.float x, rest)
    else
      match rest with
      | '.' :: rest =>
        let (behind, rest) := rest.span isWordChar
        (float? word (some behind) rest).map fun (x, rest) => (.float x, rest)
      | _ =>
        match special? word with
        | some x => some (.float x, rest)
        | none => (integer? word).map fun n => (.integer n, rest)

/-- The first word of a date or a time: it holds a `T` or a hyphen, if not for an exponent, or a
colon follows it. -/
def beginsMoment (word rest : Text) : Bool :=
  let signedExponent := (word.zip word.tail).any fun (c, d) => isExponentMark c && d = '-'
  word.any (fun c => c = 'T' || c = 't') || word.tail.contains '-' && !signedExponent ||
    rest.head? = some ':'

/-- A word at the start, and what follows it. -/
def word? (text : Text) : Option (Text × Text) :=
  match text.span isWordChar with
  | ([], _) => none
  | (word, rest) => some (word, rest)

/-- A mark with the word behind it, nothing if the mark is not there, and what follows them. -/
def markedWord? (mark : Char) : Text → Option (Text × Text)
  | [] => some ([], [])
  | c :: rest =>
    if c = mark then (word? rest).map fun (word, rest) => (c :: word, rest)
    else some ([], c :: rest)

/-- The words of a date or a time at the start, and what follows them. The hour can stand behind a
space. Minutes make seconds necessary, which a fraction can follow, and then a zone: after a plus
sign, or after a minus sign in the last word. -/
def momentWords? (text : Text) : Option (Text × Text) := do
  let (first, rest) := text.span isWordChar
  let (hour, rest) := (markedWord? ' ' rest).getD ([], rest)
  let (minute, rest) ← markedWord? ':' rest
  if minute = [] then return (first ++ hour, rest)
  let (second, rest) ← markedWord? ':' rest
  if second = [] then none
  else
    let (fraction, rest) ← markedWord? '.' rest
    let (ahead, rest) ← markedWord? '+' rest
    let (zoneMinute, rest) ← markedWord? ':' rest
    return (first ++ hour ++ minute ++ second ++ fraction ++ ahead ++ zoneMinute, rest)

/-- A number, a moment or a truth value at the start, and what follows it. -/
def scalar? (text : Text) : Option (Expression × Text) :=
  match text with
  | '+' :: rest => number? rest
  | c :: _ =>
    let (word, rest) := text.span isWordChar
    if word = "true".toList then some (.boolean true, rest)
    else if word = "false".toList then some (.boolean false, rest)
    else if c.isDigit ∨ c = '-' ∨ (special? word).isSome then
      if beginsMoment word rest then
        (momentWords? text).map fun (words, rest) => (.moment words, rest)
      else number? text
    else none
  | [] => none

end Ftp.Toml
