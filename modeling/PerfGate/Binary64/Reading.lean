import PerfGate.Binary64.Basic
import PerfGate.Text.Decimal

/-!
# Reading binary64 numerals

A numeral is a sign, then a decimal or a hexadecimal mantissa with at most one point, then
an exponent: `e` and a power of ten, or `p` and a power of two.  A numeral is read to its
exact ratio first and rounded once.

`Binary64.ofNumeral?` takes a numeral only if it is the whole text and its value is in
range: no overflow, and below the normal numbers no loss.  Infinity and `nan` have no
numeral here.
-/

namespace PerfGate

namespace Binary64

/-- A numeral: `mantissa * base ^ power`, with the number of digits it was written with. -/
structure Numeral where
  /-- Whether a minus stands in front. -/
  negative : Bool
  /-- The digits as one whole number, the point left out. -/
  mantissa : Nat
  /-- How many digits the mantissa was written with. -/
  width : Nat
  /-- Ten, or two for a hexadecimal numeral. -/
  base : Nat
  /-- The power of the base. -/
  power : Int

/-- The value of a hexadecimal digit. -/
def hexValue? (c : Char) : Option Nat :=
  if '0' ≤ c && c ≤ '9' then some (c.toNat - 48)
  else if 'a' ≤ c && c ≤ 'f' then some (c.toNat - 87)
  else if 'A' ≤ c && c ≤ 'F' then some (c.toNat - 55)
  else none

/-- Whether the character is a hexadecimal digit. -/
def isHexDigit (c : Char) : Bool := (hexValue? c).isSome

/-- The number that hexadecimal digits stand for. -/
def hexNumber (ds : Text) : Nat := ds.foldl (fun v c => 16 * v + (hexValue? c).getD 0) 0

/-- A sign at the start of a text, and the rest. -/
def takeSign : Text → Bool × Text
  | '-' :: t => (true, t)
  | '+' :: t => (false, t)
  | t => (false, t)

/-- The digits before and behind the point, and the rest; one digit is needed. -/
def takeMantissa? (isDigit : Char → Bool) (t : Text) : Option (Text × Text × Text) :=
  let whole := t.takeWhile isDigit
  match t.dropWhile isDigit with
  | '.' :: rest =>
    let places := rest.takeWhile isDigit
    if whole.isEmpty && places.isEmpty then none
    else some (whole, places, rest.dropWhile isDigit)
  | rest => if whole.isEmpty then none else some (whole, [], rest)

/-- An exponent that is the whole rest of a numeral: a mark, a sign and digits.  Without
any rest the exponent is zero. -/
def takePower? (mark : Char) : Text → Option Int
  | [] => some 0
  | c :: t =>
    let (minus, ds) := takeSign t
    if c.toLower == mark && !ds.isEmpty && ds.all Text.isDigit then
      some (if minus then -(Decimal.value ds : Int) else Decimal.value ds)
    else none

/-- The numeral that a text is. -/
def Numeral.ofText? (t : Text) : Option Numeral :=
  match takeSign t with
  | (negative, '0' :: x :: t) =>
    if x == 'x' || x == 'X' then do
      let (whole, places, rest) ← takeMantissa? isHexDigit t
      let power ← takePower? 'p' rest
      some
        { negative, mantissa := hexNumber (whole ++ places), width := 4 * (whole ++ places).length,
          base := 2, power := power - 4 * places.length }
    else decimal negative ('0' :: x :: t)
  | (negative, t) => decimal negative t
where
  /-- The decimal numeral behind a sign. -/
  decimal (negative : Bool) (t : Text) : Option Numeral := do
    let (whole, places, rest) ← takeMantissa? Text.isDigit t
    let power ← takePower? 'e' rest
    some
      { negative, mantissa := Decimal.value (whole ++ places), width := (whole ++ places).length,
        base := 10, power := power - places.length }

/-- The power, held to the span in which it can matter: above it a mantissa other than zero
overflows, below it the value is far under the smallest positive number. -/
def Numeral.heldPower (n : Numeral) : Int :=
  max (-(n.width + 1400 : Nat)) (min 1400 n.power)

/-- The value as a ratio of units. -/
def Numeral.ratio (n : Numeral) : Nat × Nat :=
  let p := n.heldPower
  (n.mantissa * Nat.pow n.base p.toNat * unitsPerOne, Nat.pow n.base (-p).toNat)

/-- Whether a ratio of units lies below the normal numbers and would do so with 53 bits. -/
def isTiny (num den : Nat) : Bool := 4 * num < (Nat.pow 2 54 - 1) * den

/-- The nearest number, if it is finite and either exact or at least normal. -/
def Numeral.toBinary64? (n : Numeral) : Option Binary64 :=
  let (num, den) := n.ratio
  if isTiny num den && num % den != 0 then none
  else
    let x := ofRatio n.negative num den
    if x.isFinite then some x else none

/-- The number that a text without surrounding blanks is the numeral of. -/
def ofNumeral? (t : Text) : Option Binary64 := (Numeral.ofText? t).bind Numeral.toBinary64?

end Binary64

end PerfGate
