import Ftp.Text.Decimal

/-!
# Dates

Points in time on the proleptic Gregorian calendar, to the second and without a time zone, and the
way they are written in listings and facts.
-/

namespace Ftp

/-- A date and a time of day. -/
structure DateTime where
  year : Int
  month : Nat
  day : Nat
  hour : Nat
  minute : Nat
  second : Nat
  deriving DecidableEq, Repr, Inhabited

namespace DateTime

/-- The date that lies `days` days after 1 January 1970, as year, month and day. Years are counted
from March, so that the leap day is the last day of its year, and in cycles of four hundred
years. -/
def ofDays (days : Int) : Int × Nat × Nat :=
  let shifted := days + 719468
  let cycle := shifted.fdiv 146097
  let dayOfCycle := (shifted.fmod 146097).toNat
  let yearOfCycle :=
    (dayOfCycle - dayOfCycle / 1460 + dayOfCycle / 36524 - dayOfCycle / 146096) / 365
  let dayOfYear := dayOfCycle - (365 * yearOfCycle + yearOfCycle / 4 - yearOfCycle / 100)
  let monthFromMarch := (5 * dayOfYear + 2) / 153
  let day := dayOfYear - (153 * monthFromMarch + 2) / 5 + 1
  let month := if monthFromMarch < 10 then monthFromMarch + 3 else monthFromMarch - 9
  let year := cycle * 400 + yearOfCycle + (if month ≤ 2 then 1 else 0)
  (year, month, day)

/-- The universal time that lies `seconds` seconds after the beginning of 1970. -/
def ofUnix (seconds : Int) : DateTime :=
  let (year, month, day) := ofDays (seconds.fdiv 86400)
  let time := (seconds.fmod 86400).toNat
  ⟨year, month, day, time / 3600, time / 60 % 60, time % 60⟩

/-- The English abbreviation of the month. -/
def monthName (t : DateTime) : Text :=
  match t.month with
  | 1 => "Jan"
  | 2 => "Feb"
  | 3 => "Mar"
  | 4 => "Apr"
  | 5 => "May"
  | 6 => "Jun"
  | 7 => "Jul"
  | 8 => "Aug"
  | 9 => "Sep"
  | 10 => "Oct"
  | 11 => "Nov"
  | _ => "Dec"

/-- A year in at least four digits. A year outside of 0 to 9999 carries its sign. -/
def fourDigitYear (year : Int) : Text :=
  let digits := Decimal.zeroPadded 4 year.natAbs
  if year < 0 then '-' :: digits else if 9999 < year then '+' :: digits else digits

/-- Year, month, day, hour, minute and second without separators. -/
def stamp (t : DateTime) : Text :=
  fourDigitYear t.year ++ Decimal.zeroPadded 2 t.month ++ Decimal.zeroPadded 2 t.day ++
    Decimal.zeroPadded 2 t.hour ++ Decimal.zeroPadded 2 t.minute ++ Decimal.zeroPadded 2 t.second

/-- The abbreviated month and the day. -/
def monthDay (t : DateTime) : Text :=
  t.monthName ++ ' ' :: Decimal.zeroPadded 2 t.day

/-- The hour and the minute. -/
def clock (t : DateTime) : Text :=
  Decimal.zeroPadded 2 t.hour ++ ':' :: Decimal.zeroPadded 2 t.minute

end DateTime

end Ftp
