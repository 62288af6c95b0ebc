import PerfGate.Binary64.Basic
import PerfGate.Text.Decimal

/-!
# Fixed places

A number written with a fixed number of decimal places, rounded from its exact value; a
half goes to the even neighbour.  The sign of a number that rounds to zero is kept.
-/

namespace PerfGate

namespace Binary64

/-- The number of steps of `10 ^ -places` nearest to a count of units. -/
def stepsAt (places units : Nat) : Nat := roundQuotient (units * Nat.pow 10 places) unitsPerOne

/-- A count of steps of `10 ^ -places` with a point in front of the last `places` digits. -/
def withPoint (places steps : Nat) : Text :=
  if places = 0 then Decimal.digits steps
  else
    Decimal.digits (steps / Nat.pow 10 places) ++ '.' ::
      Decimal.padded places (steps % Nat.pow 10 places)

/-- The sign in front of a magnitude. -/
def signMark (negative : Bool) : Text := if negative then ['-'] else []

/-- The number with `places` digits behind the point. -/
def fixed (places : Nat) : Binary64 → Text
  | .finite s u _ => signMark s ++ withPoint places (stepsAt places u)
  | .infinite s => signMark s ++ "inf".toList
  | .nan s => signMark s ++ "nan".toList

end Binary64

end PerfGate
