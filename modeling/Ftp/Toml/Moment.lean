import Ftp.Text.Decimal

/-!
# Dates and times of a TOML document

A moment is a date, a time of day, or both, and then perhaps the distance to universal time. It is
read digit by digit, and written in one canonical form.
-/

namespace Ftp.Toml

structure Date where
  year : Nat
  month : Nat
  day : Nat
  deriving DecidableEq, Repr

structure TimeOfDay where
  hour : Nat
  minute : Nat
  second : Nat
  nanosecond : Nat
  deriving DecidableEq, Repr

/-- How a local time relates to universal time. -/
inductive Zone where
  | universal
  /-- Hours with their sign, and minutes without one. -/
  | shifted (hours : Int) (minutes : Nat)
  deriving DecidableEq, Repr

inductive Moment where
  | date (day : Date)
  | time (clock : TimeOfDay)
  | dateTime (day : Date) (clock : TimeOfDay) (zone : Option Zone)
  deriving DecidableEq, Repr

/-! ## Writing -/

def Date.text (date : Date) : Text :=
  Decimal.zeroPadded 4 date.year ++ '-' :: Decimal.zeroPadded 2 date.month ++
    '-' :: Decimal.zeroPadded 2 date.day

/-- The fraction of a second is written without trailing zeros. -/
def TimeOfDay.text (time : TimeOfDay) : Text :=
  let whole := Decimal.zeroPadded 2 time.hour ++ ':' :: Decimal.zeroPadded 2 time.minute ++
    ':' :: Decimal.zeroPadded 2 time.second
  if time.nanosecond = 0 then whole
  else whole ++ '.' :: Text.dropEnd (· = '0') (Decimal.zeroPadded 9 time.nanosecond)

def Zone.text : Zone → Text
  | .universal => ['Z']
  | .shifted hours minutes =>
    (if hours < 0 then '-' else '+') :: Decimal.zeroPadded 2 hours.natAbs ++
      ':' :: Decimal.zeroPadded 2 minutes

def Moment.text : Moment → Text
  | .date day => day.text
  | .time clock => clock.text
  | .dateTime day clock zone => day.text ++ 'T' :: clock.text ++ (zone.map Zone.text).getD []

/-! ## Reading -/

/-- A number of exactly so many digits at the start, and what follows it. -/
def fixed? (count : Nat) (text : Text) : Option (Nat × Text) :=
  let digits := text.take count
  if digits.length = count ∧ digits.all Char.isDigit then
    some (Decimal.number digits, text.drop count)
  else none

/-- A number of two digits after a separator. -/
def pairAfter? (separator : Char) (text : Text) : Option (Nat × Text) :=
  (Text.after? [separator] text).bind (fixed? 2)

/-- Every month has room for 31 days. -/
def date? (text : Text) : Option (Date × Text) := do
  let (year, text) ← fixed? 4 text
  let (month, text) ← pairAfter? '-' text
  let (day, text) ← pairAfter? '-' text
  if 1 ≤ month ∧ month ≤ 12 ∧ 1 ≤ day ∧ day ≤ 31 then some (⟨year, month, day⟩, text) else none

/-- The nanoseconds after a point, none without it. Digits after the ninth do not count. -/
def nanosecond? (text : Text) : Option (Nat × Text) :=
  match text with
  | '.' :: rest =>
    match rest.span Char.isDigit with
    | ([], _) => none
    | (digits, rest) => some (Decimal.number ((digits ++ List.replicate 9 '0').take 9), rest)
  | _ => some (0, text)

/-- A day ends with the hour 24. -/
def timeOfDay? (text : Text) : Option (TimeOfDay × Text) := do
  let (hour, text) ← fixed? 2 text
  let (minute, text) ← pairAfter? ':' text
  let (second, text) ← pairAfter? ':' text
  let (nanosecond, text) ← nanosecond? text
  if hour ≤ 24 ∧ minute ≤ 59 ∧ second ≤ 59 then some (⟨hour, minute, second, nanosecond⟩, text)
  else none

/-- The distance to universal time, if it is given. -/
def zone? (text : Text) : Option (Option Zone × Text) :=
  let shifted := fun (negative : Bool) (text : Text) => do
    let (hours, text) ← fixed? 2 text
    let (minutes, text) ← pairAfter? ':' text
    return (some (.shifted (if negative then -hours else hours) minutes), text)
  match text with
  | 'Z' :: rest => some (some .universal, rest)
  | 'z' :: rest => some (some .universal, rest)
  | '+' :: rest => shifted false rest
  | '-' :: rest => shifted true rest
  | _ => some (none, text)

/-- What follows the mark between a date and a time: a letter, or a single space if a time can
follow it. -/
def afterDate? : Text → Option Text
  | 'T' :: rest => some rest
  | 't' :: rest => some rest
  | ' ' :: c :: rest => if c.isDigit then some (c :: rest) else none
  | _ => none

/-- A moment at the start, and what follows it. -/
def moment? (text : Text) : Option (Moment × Text) :=
  if text[2]? = some ':' then (timeOfDay? text).map fun (time, rest) => (.time time, rest)
  else do
    let (date, text) ← date? text
    match afterDate? text with
    | none => return (.date date, text)
    | some text =>
      let (time, text) ← timeOfDay? text
      let (zone, text) ← zone? text
      return (.dateTime date time zone, text)

/-- The moment that the whole text spells. -/
def Moment.ofText? (text : Text) : Option Moment :=
  match moment? text with
  | some (moment, []) => some moment
  | _ => none

end Ftp.Toml
