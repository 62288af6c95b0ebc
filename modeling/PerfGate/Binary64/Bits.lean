import PerfGate.Binary64.Basic

/-!
# The bits of a binary64 number

The interchange word of a number: a sign bit, eleven bits of exponent and fifty-two bits of
fraction.  `ofBits` reads a word and `toBits` writes one.
-/

namespace PerfGate

namespace Binary64

/-- The first power of two past the fractions: `2 ^ 52`. -/
def fractionLimit : Nat := 0x10000000000000

theorem fractionLimit_eq : fractionLimit = Nat.pow 2 52 := rfl

theorem fits_subnormal {f : Nat} (h : f < fractionLimit) :
  FitsBinary64 f
  := by
  refine ⟨lt_unitLimit (n := 52) h (by decide), f, 0, ?_, by simp⟩
  have hf : f < 2 ^ 52 := h
  show f ≤ 2 ^ 53
  omega

theorem fits_normal {f e : Nat} (h : f < fractionLimit) (he : e < 2046) :
  FitsBinary64 ((fractionLimit + f) * Nat.pow 2 e)
  := by
  have hf : fractionLimit + f < 2 ^ 53 := by
    unfold fractionLimit at *
    omega
  refine ⟨lt_unitLimit (n := 53 + e) ?_ ?_, fractionLimit + f, e, Nat.le_of_lt hf, rfl⟩
  · calc (fractionLimit + f) * 2 ^ e
        < 2 ^ 53 * 2 ^ e := Nat.mul_lt_mul_of_pos_right hf (Nat.two_pow_pos e)
      _ = 2 ^ (53 + e) := (Nat.pow_add 2 53 e).symm
  · unfold limitExponent
    omega

/-- The place of the sign bit: `2 ^ 63`. -/
def signLimit : Nat := 0x8000000000000000

/-- The number of an interchange word.  The exponent field zero counts single units, the
field 2047 is kept for infinity and for no number. -/
def ofBits (word : Nat) : Binary64 :=
  let s := word / signLimit % 2 == 1
  let e := word / fractionLimit % 2048
  let f := word % fractionLimit
  have hf : f < fractionLimit := Nat.mod_lt _ (Nat.two_pow_pos 52)
  if e = 0 then .finite s f (fits_subnormal hf)
  else if h : e < 2047 then 
    .finite s ((fractionLimit + f) * Nat.pow 2 (e - 1)) (fits_normal hf (by omega))
  else if f = 0 then .infinite s
  else .nan s

/-- The word of a sign, an exponent field and a fraction. -/
def word (negative : Bool) (exponent fraction : Nat) : Nat :=
  (if negative then signLimit else 0) + exponent * fractionLimit + fraction

/-- The interchange word of a number; no number has the fraction with the first bit set. -/
def toBits : Binary64 → Nat
  | .nan s => word s 2047 (fractionLimit / 2)
  | .infinite s => word s 2047 0
  | .finite s u _ =>
    if u < fractionLimit then word s 0 u
    else word s (u.log2 - 51) (u / Nat.pow 2 (u.log2 - 52) - fractionLimit)

end Binary64

end PerfGate
