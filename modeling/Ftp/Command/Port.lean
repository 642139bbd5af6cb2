import Ftp.Text.Blank
import Ftp.Text.Decimal

/-!
# The argument of `PORT`

Six numbers with commas between them: four for an address, which nobody looks at, and two for a
port.
-/

namespace Ftp.Command

/-- One number of at most 255, with white space around it. -/
def portField? (field : Text) : Option Nat :=
  match Decimal.unsigned? (Text.strip Text.isBlank field) with
  | some n => if n ≤ 255 then some n else none
  | none => none

/-- The port that the argument names. There is no port zero. -/
def dataPort? (argument : Text) : Option UInt16 :=
  match (Text.split ',' (Text.strip Text.isBlank argument)).mapM portField? with
  | some [_, _, _, _, high, low] =>
    if 256 * high + low = 0 then none else some (UInt16.ofNat (256 * high + low))
  | _ => none

end Ftp.Command
