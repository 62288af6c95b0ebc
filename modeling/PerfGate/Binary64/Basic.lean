/-!
# Binary64 numbers

Numbers of the binary64 format.  Every finite number of the format is a whole number of
units of `2 ^ -1074`, its smallest positive number, so a finite number is a sign and a
count of units with at most 53 significant bits.  Zero has a sign, and so has the value
`nan` that stands for no number.

`roundRatio` is the one place where precision is lost: it takes the nearest count that the
format has, and of two equally near the one with an even last bit.  All arithmetic works
on exact ratios of units and rounds once.
-/

namespace PerfGate

/-- The exponent of the limit of the finite numbers: `2 ^ 1024`, in units. -/
def limitExponent : Nat := 2098

/-- The first power of two past the largest finite number, in units. -/
def unitLimit : Nat := Nat.pow 2 limitExponent

theorem two_pow_le_two_pow {m n : Nat} (h : m ≤ n) :
  Nat.pow 2 m ≤ Nat.pow 2 n
  := Nat.pow_le_pow_right (by omega) h

/-- Whatever is below a power of two up to the limit is below the limit. -/
theorem lt_unitLimit {units n : Nat} (h : units < Nat.pow 2 n) (hn : n ≤ limitExponent) :
  units < unitLimit
  := by
  unfold unitLimit
  exact Nat.lt_of_lt_of_le h (two_pow_le_two_pow hn)

theorem unitLimit_pos : 0 < unitLimit := lt_unitLimit (n := 0) (by decide) (Nat.zero_le _)

/-- A count of units that the format has: at most 53 significant bits, below the limit. -/
def FitsBinary64 (units : Nat) : Prop :=
  units < unitLimit ∧ ∃ m s, m ≤ Nat.pow 2 53 ∧ units = m * Nat.pow 2 s

/-- A number of the binary64 format. -/
inductive Binary64 where
  /-- A sign and a magnitude in units of `2 ^ -1074`. -/
  | finite (negative : Bool) (units : Nat) (fits : FitsBinary64 units)
  /-- Infinity of either sign. -/
  | infinite (negative : Bool)
  /-- No number; the sign is only ever printed. -/
  | nan (negative : Bool)
deriving DecidableEq

namespace Binary64

/-- The number of units in one. -/
def unitsPerOne : Nat := Nat.pow 2 1074

/-! ### Rounding -/

/-- `num / den` as a whole number, the nearest one; of two equally near the even one. -/
def roundQuotient (num den : Nat) : Nat :=
  let q := num / den
  let r := num % den
  if 2 * r < den then q
  else if den < 2 * r then q + 1
  else if q % 2 = 0 then q else q + 1

/-- The place of the last of the 53 significant bits of a count between `whole` and
`whole + 1`. -/
def lastPlace (whole : Nat) : Nat := whole.log2 - 52

/-- `num / den` rounded to 53 significant bits. -/
def roundRatio (num den : Nat) : Nat :=
  let s := lastPlace (num / den)
  roundQuotient num (den * Nat.pow 2 s) * Nat.pow 2 s

theorem roundQuotient_le (num den : Nat) :
  roundQuotient num den ≤ num / den + 1
  := by
  unfold roundQuotient
  dsimp only
  split
  · omega
  · split
    · omega
    · split <;> omega

theorem div_shifted_lt (num den : Nat) :
  num / (den * Nat.pow 2 (lastPlace (num / den))) < Nat.pow 2 53
  := by
  show num / (den * 2 ^ lastPlace (num / den)) < 2 ^ 53
  rw [← Nat.div_div_eq_div_mul, Nat.div_lt_iff_lt_mul (Nat.two_pow_pos _), ← Nat.pow_add]
  apply Nat.lt_of_lt_of_le Nat.lt_log2_self
  apply Nat.pow_le_pow_right (by omega)
  unfold lastPlace
  omega

/-- A rounded ratio has at most 53 significant bits. -/
theorem roundRatio_fits {num den : Nat} (h : roundRatio num den < unitLimit) :
  FitsBinary64 (roundRatio num den)
  := by
  refine ⟨h, roundQuotient num (den * Nat.pow 2 (lastPlace (num / den))),
    lastPlace (num / den), ?_, rfl⟩
  have h₁ := roundQuotient_le num (den * Nat.pow 2 (lastPlace (num / den)))
  have h₂ := div_shifted_lt num den
  omega

/-- The number nearest to `num / den` units; past the largest finite number, infinity. -/
def ofRatio (negative : Bool) (num den : Nat) : Binary64 :=
  if h : roundRatio num den < unitLimit then
    .finite negative (roundRatio num den) (roundRatio_fits h)
  else .infinite negative

theorem fits_zero : FitsBinary64 0 := ⟨unitLimit_pos, 0, 0, Nat.zero_le _, by simp⟩

/-- Zero of either sign. -/
def zero (negative : Bool) : Binary64 := .finite negative 0 fits_zero

/-- The number nearest to an integer. -/
def ofInt (n : Int) : Binary64 := ofRatio (n < 0) (n.natAbs * unitsPerOne) 1

/-- The number nearest to `n / d`. -/
def ofFraction (n d : Nat) : Binary64 := ofRatio false (n * unitsPerOne) d

instance : Inhabited Binary64 := ⟨zero false⟩

/-! ### Views -/

/-- Whether the number is finite. -/
def isFinite : Binary64 → Bool
  | .finite _ _ _ => true
  | _ => false

/-- A finite number as an integer count of units. -/
def units? : Binary64 → Option Int
  | .finite s u _ => some (if s then -(u : Int) else u)
  | _ => none

/-- A finite number cut toward zero to a whole number. -/
def truncate? : Binary64 → Option Int
  | .finite s u _ => some (if s then -((u / unitsPerOne : Nat) : Int) else (u / unitsPerOne : Nat))
  | _ => none

/-- The least whole number that is not below a finite number. -/
def ceil? : Binary64 → Option Int
  | .finite s u _ =>
    some (if s then -((u / unitsPerOne : Nat) : Int)
      else ((u + unitsPerOne - 1) / unitsPerOne : Nat))
  | _ => none

/-! ### Order -/

/-- Strictly below, as numbers: the zeros are equal, and `nan` is below nothing. -/
def lt : Binary64 → Binary64 → Bool
  | .nan _, _ => false
  | _, .nan _ => false
  | .infinite s, .infinite t => s && !t
  | .infinite s, .finite _ _ _ => s
  | .finite _ _ _, .infinite t => !t
  | .finite s u _, .finite t v _ =>
    (if s then -(u : Int) else u) < (if t then -(v : Int) else v)

/-- Whether neither operand is `nan`. -/
def ordered : Binary64 → Binary64 → Bool
  | .nan _, _ => false
  | _, .nan _ => false
  | _, _ => true

/-- At most, as numbers. -/
def le (a b : Binary64) : Bool := ordered a b && !lt b a

/-- Whether the number is a zero of either sign. -/
def isZero : Binary64 → Bool
  | .finite _ u _ => u == 0
  | _ => false

/-! ### Arithmetic -/

/-- Change of sign. -/
def neg : Binary64 → Binary64
  | .finite s u h => .finite (!s) u h
  | .infinite s => .infinite (!s)
  | .nan s => .nan (!s)

/-- The sum.  An exact zero is negative only if both operands are; two opposite infinities
have no sum. -/
def add : Binary64 → Binary64 → Binary64
  | .nan s, _ => .nan s
  | _, .nan t => .nan t
  | .infinite s, .infinite t => if s == t then .infinite s else .nan true
  | .infinite s, .finite _ _ _ => .infinite s
  | .finite _ _ _, .infinite t => .infinite t
  | .finite s u _, .finite t v _ =>
    let sum := (if s then -(u : Int) else u) + (if t then -(v : Int) else v)
    if sum = 0 then zero (s && t) else ofRatio (sum < 0) sum.natAbs 1

/-- The difference; `nan` keeps its sign. -/
def sub (a : Binary64) : Binary64 → Binary64
  | .nan t =>
    match a with
    | .nan s => .nan s
    | _ => .nan t
  | b => add a (neg b)

/-- The product.  Zero times infinity is no number. -/
def mul : Binary64 → Binary64 → Binary64
  | .nan s, _ => .nan s
  | _, .nan t => .nan t
  | .infinite s, .infinite t => .infinite (s != t)
  | .infinite s, .finite t v _ => if v = 0 then .nan true else .infinite (s != t)
  | .finite s u _, .infinite t => if u = 0 then .nan true else .infinite (s != t)
  | .finite s u _, .finite t v _ => ofRatio (s != t) (u * v) unitsPerOne

/-- The quotient.  Zero over zero and infinity over infinity are no numbers. -/
def div : Binary64 → Binary64 → Binary64
  | .nan s, _ => .nan s
  | _, .nan t => .nan t
  | .infinite _, .infinite _ => .nan true
  | .infinite s, .finite t _ _ => .infinite (s != t)
  | .finite s _ _, .infinite t => zero (s != t)
  | .finite s u _, .finite t v _ =>
    if v = 0 then (if u = 0 then .nan true else .infinite (s != t))
    else ofRatio (s != t) (u * unitsPerOne) v

/-- The whole part of the square root. -/
def wholeRoot (n : Nat) : Nat :=
  if n = 0 then 0
  else
    let r := 2 * wholeRoot (n / 4)
    if (r + 1) * (r + 1) ≤ n then r + 1 else r
termination_by n
decreasing_by omega

/-- The square root; below zero there is none.  The whole root of the scaled count has far
more than 53 bits, so half a unit stands for whatever lies behind it. -/
def sqrt : Binary64 → Binary64
  | .nan s => .nan s
  | .infinite s => if s then .nan true else .infinite false
  | .finite s u h =>
    if u = 0 then .finite s u h
    else if s then .nan true
    else
      let n := u * unitsPerOne
      let r := wholeRoot n
      if r * r = n then ofRatio false r 1 else ofRatio false (2 * r + 1) 2

end Binary64

end PerfGate
