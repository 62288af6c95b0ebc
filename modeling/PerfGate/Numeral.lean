import PerfGate.Binary64.Reading
import PerfGate.Word

/-!
# Numbers in text

The readers of numbers.  Each takes the whole text, blanks at both ends apart, or nothing:
`float?` any finite binary64 numeral, `integer?` a signed and `natural?` an unsigned 64-bit
decimal integer, and `unsigned?` a metric value, digits with at most one point between them.
-/

namespace PerfGate

namespace Numeral

/-- A finite number: sign, exponent and hexadecimal digits are allowed. -/
def float? (t : Text) : Option Binary64 := Binary64.ofNumeral? t.trim

/-- A decimal integer of the 64-bit range, with or without a sign. -/
def integer? (t : Text) : Option Int :=
  let (negative, ds) := Binary64.takeSign t.trim
  if ds.isEmpty || !ds.all Text.isDigit then none
  else
    let n : Int := if negative then -(Decimal.value ds : Int) else Decimal.value ds
    if inRange64 n then some n else none

/-- The length of the unsigned decimal at the start of a text: digits, and behind a point
more digits.  A point without digits behind it makes it zero. -/
def unsignedLength (t : Text) : Nat :=
  let whole := t.takeWhile Text.isDigit
  if whole.isEmpty then 0
  else
    match t.dropWhile Text.isDigit with
    | '.' :: rest =>
      let places := rest.takeWhile Text.isDigit
      if places.isEmpty then 0 else whole.length + 1 + places.length
    | _ => whole.length

/-- A metric value: an unsigned decimal and nothing else. -/
def unsigned? (t : Text) : Option Binary64 :=
  let body := t.trim
  if body.isEmpty || unsignedLength body != body.length then none else float? body

/-- A run of digits that is at most the largest signed 64-bit integer. -/
def natural? (t : Text) : Option Nat :=
  let body := t.trim
  if body.isEmpty || !body.all Text.isDigit then none else (integer? body).map Int.toNat

end Numeral

end PerfGate
