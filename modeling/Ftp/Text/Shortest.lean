import Ftp.Text.Decimal

/-!
# Shortest decimals

The decimal notation of a double with the fewest digits that reads back as the same double, and
among those the one nearest to it. The search is exact: it compares fractions of natural numbers.
-/

namespace Ftp.Shortest

/-- A positive double, `mantissa * 2 ^ exponent`. -/
structure Binary where
  mantissa : Nat
  exponent : Int

/-- The numbers that a double stands for when it is read: those nearer to it than to any other. They
are fractions with one denominator. -/
structure Interval where
  low : Nat
  value : Nat
  high : Nat
  denominator : Nat
  /-- The ends belong to the interval. -/
  closed : Bool

/-- The distance to the double below is half of that to the one above if the mantissa is the least
of its exponent. -/
def Binary.interval (x : Binary) : Interval :=
  let scale := Nat.pow 2 (x.exponent - 2).toNat
  let below := if x.mantissa = Nat.pow 2 52 ∧ -1074 < x.exponent then 1 else 2
  { low := (4 * x.mantissa - below) * scale
    value := 4 * x.mantissa * scale
    high := (4 * x.mantissa + 2) * scale
    denominator := Nat.pow 2 (2 - x.exponent).toNat
    closed := x.mantissa % 2 = 0 }

/-- The fraction `n * 10 ^ power` over one denominator lies in the interval. -/
def Interval.holds (i : Interval) (n : Nat) (power : Int) : Bool :=
  let candidate := n * Nat.pow 10 power.toNat * i.denominator
  let scale := Nat.pow 10 (-power).toNat
  if i.closed then i.low * scale ≤ candidate && candidate ≤ i.high * scale
  else i.low * scale < candidate && candidate < i.high * scale

/-- Digits with a power of ten. -/
structure Scaled where
  number : Nat
  power : Int

/-- The neighbour of the value on the grid of multiples of `10 ^ power` that lies in the interval,
the nearer one if both do, and the greater one if they are equally near. -/
def Interval.onGrid? (i : Interval) (power : Int) : Option Scaled :=
  let numerator := i.value * Nat.pow 10 (-power).toNat
  let unit := i.denominator * Nat.pow 10 power.toNat
  let below := numerator / unit
  let nearer := if 2 * (numerator % unit) < unit then below else below + 1
  let other := if nearer = below then below + 1 else below
  if i.holds nearer power then some ⟨nearer, power⟩
  else if i.holds other power then some ⟨other, power⟩
  else none

/-- The number of digits before the point, or minus the number of zeros behind it. -/
def Interval.magnitude (i : Interval) : Int :=
  let whole := i.value / i.denominator
  if 0 < whole then (Decimal.digits whole).length
  else -((Decimal.digits ((i.denominator - 1) / i.value)).length - 1 : Nat)

/-- Tries grids with more and more digits. -/
def Interval.search (i : Interval) : (tries : Nat) → (power : Int) → Scaled
  | 0, power => ⟨i.value / i.denominator, power⟩
  | tries + 1, power =>
    match i.onGrid? power with
    | some found => found
    | none => i.search tries (power - 1)

/-- The shortest decimal that reads back as the double. -/
def Binary.shortest (x : Binary) : Scaled :=
  let i := x.interval
  i.search 20 i.magnitude

/-- Positional notation, without an exponent. -/
def Scaled.text (d : Scaled) : Text :=
  let digits := Decimal.digits d.number
  if 0 ≤ d.power then digits ++ List.replicate d.power.toNat '0'
  else
    let places := (-d.power).toNat
    let padded := List.replicate (places + 1 - digits.length) '0' ++ digits
    padded.take (padded.length - places) ++ '.' :: padded.drop (padded.length - places)

/-- The number without trailing zeros in front of the power. -/
def Scaled.trim : (fuel : Nat) → Scaled → Scaled
  | 0, d => d
  | fuel + 1, d =>
    if d.number ≠ 0 ∧ d.number % 10 = 0 then trim fuel ⟨d.number / 10, d.power + 1⟩ else d

/-- The fields of a double that is not zero, infinite or undefined. -/
def binary (bits : Nat) : Binary :=
  let fraction : Nat := bits % Nat.pow 2 52
  let exponent : Nat := bits / Nat.pow 2 52 % Nat.pow 2 11
  if exponent = 0 then ⟨fraction, -1074⟩ else ⟨Nat.pow 2 52 + fraction, (exponent : Int) - 1075⟩

/-- The notation of a double: shortest, positional, and without a point if it is whole. -/
def text (x : Float) : Text :=
  let bits := x.toBits.toNat
  let magnitude := bits % Nat.pow 2 63
  if x.isNaN then "NaN"
  else
    let unsigned : Text :=
      if x.isInf then "inf"
      else if magnitude = 0 then "0"
      else (Scaled.trim 400 (binary magnitude).shortest).text
    if Nat.pow 2 63 ≤ bits then '-' :: unsigned else unsigned

end Ftp.Shortest
