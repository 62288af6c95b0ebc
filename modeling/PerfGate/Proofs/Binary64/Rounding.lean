import Mathlib.Algebra.Group.Nat.Defs
import Mathlib.Tactic.Use
import PerfGate.Binary64.Basic

/-!
# Rounding passes no number of the format

A ratio that is at most a number with 53 significant bits is rounded to at most that number
(`roundRatio_le`), for that number is a multiple of the last place of the ratio.  So no sum and
no half of numbers below a bound of the format gets above the bound.
-/

namespace PerfGate

namespace Binary64

/-- Whether a count has at most 53 significant bits. -/
def HasPrecision (x : Nat) : Prop := ∃ m s, m ≤ Nat.pow 2 53 ∧ x = m * Nat.pow 2 s

theorem HasPrecision.double {x : Nat} (h : HasPrecision x) :
  HasPrecision (2 * x)
  := by
  obtain ⟨m, s, hm, rfl⟩ := h
  use m, s + 1, hm
  show 2 * (m * 2 ^ s) = m * 2 ^ (s + 1)
  rw [Nat.pow_succ, Nat.mul_left_comm, Nat.mul_comm 2]

theorem hasPrecision_mul_two_pow {m : Nat} (hm : m ≤ Nat.pow 2 53) (n : Nat) :
  HasPrecision (m * Nat.pow 2 n)
  := by
  use m, n, hm

theorem hasPrecision_two_pow (n : Nat) :
  HasPrecision (Nat.pow 2 n)
  := by
  rw [← Nat.one_mul (Nat.pow 2 n)]
  apply hasPrecision_mul_two_pow
  decide

/-- Between two neighbours of 53 significant bits there is no number of the format. -/
theorem HasPrecision.le_of_lt {x k n : Nat} (hx : HasPrecision x) (hk : 2 ^ 52 ≤ k)
    (h : x < (k + 1) * 2 ^ n) :
  x ≤ k * 2 ^ n
  := by
  obtain ⟨m, s, hm, rfl⟩ := hx
  show m * 2 ^ s ≤ k * 2 ^ n
  have hm : m ≤ 2 ^ 53 := hm
  have h : m * 2 ^ s < (k + 1) * 2 ^ n := h
  rcases Nat.lt_or_ge s n with hlt | hge
  · calc m * 2 ^ s
      _ ≤ 2 ^ 53 * 2 ^ s := Nat.mul_le_mul_right _ hm
      _ = 2 ^ 52 * 2 ^ (s + 1) := by omega
      _ ≤ k * 2 ^ n := Nat.mul_le_mul hk (Nat.pow_le_pow_right (by omega) hlt)
  · obtain ⟨d, rfl⟩ := Nat.exists_eq_add_of_le hge
    rw [Nat.pow_add, Nat.mul_comm (2 ^ n), ← Nat.mul_assoc] at h ⊢
    apply Nat.mul_le_mul_right
    apply Nat.le_of_lt_succ (Nat.lt_of_mul_lt_mul_right h)

theorem roundQuotient_le_of_le_mul {num den k : Nat} (hden : 0 < den) (h : num ≤ k * den) :
  roundQuotient num den ≤ k
  := by
  have hround := roundQuotient_le num den
  rcases Nat.lt_or_ge (num / den) k with hlt | hge
  · omega
  · -- the quotient is `k` and nothing is left over
    have hq : num / den = k := Nat.le_antisymm (Nat.div_le_of_le_mul (Nat.mul_comm k den ▸ h)) hge
    have hdivmod := Nat.div_add_mod num den
    rw [hq, Nat.mul_comm] at hdivmod
    have hr : num % den = 0 := by omega
    unfold roundQuotient
    rw [hq, hr]
    apply Nat.le_of_eq
    dsimp only
    rw [if_pos (by omega)]

/-- A number of the format is a multiple of the last place of every ratio below it. -/
theorem HasPrecision.exists_mul_lastPlace {num den x : Nat} (hx : HasPrecision x)
    (h : num ≤ x * den) :
  ∃ k, x = k * 2 ^ lastPlace (num / den)
  := by
  obtain ⟨m, e, hm, rfl⟩ := hx
  show ∃ k, m * 2 ^ e = k * 2 ^ lastPlace (num / den)
  have hm' : m ≤ 2 ^ 53 := hm
  have hle : num / den ≤ m * 2 ^ e := Nat.div_le_of_le_mul (Nat.mul_comm _ den ▸ h)
  rcases Nat.lt_or_ge e (lastPlace (num / den)) with hlt | hge
  · -- the ratio is so large that the number has to be `2 ^ 53` times its own last place
    have hlog : (num / den).log2 = lastPlace (num / den) + 52 := by
      unfold lastPlace at hlt ⊢
      omega
    have hne : num / den ≠ 0 := by
      intro hzero
      rw [hzero, Nat.log2_zero] at hlog
      omega
    have hlow : 2 ^ (lastPlace (num / den) + 52) ≤ num / den := hlog ▸ Nat.log2_self_le hne
    have hhigh : m * 2 ^ e ≤ 2 ^ (lastPlace (num / den) + 52) := by
      calc m * 2 ^ e
        _ ≤ 2 ^ 53 * 2 ^ e := Nat.mul_le_mul_right _ hm'
        _ = 2 ^ (53 + e) := (Nat.pow_add 2 53 e).symm
        _ ≤ 2 ^ (lastPlace (num / den) + 52) := Nat.pow_le_pow_right (by omega) (by omega)
    use 2 ^ 52
    rw [← Nat.pow_add, Nat.add_comm 52]
    omega
  · use m * 2 ^ (e - lastPlace (num / den))
    rw [Nat.mul_assoc, ← Nat.pow_add, Nat.sub_add_cancel hge]

/-- A ratio that is at most a number of the format is rounded to at most that number. -/
theorem roundRatio_le {num den x : Nat} (hx : HasPrecision x) (hden : 0 < den)
    (h : num ≤ x * den) :
  roundRatio num den ≤ x
  := by
  obtain ⟨k, hk⟩ := hx.exists_mul_lastPlace h
  have hquotient : num ≤ k * (den * 2 ^ lastPlace (num / den)) := by
    rw [Nat.mul_comm den, ← Nat.mul_assoc, ← hk]
    apply h
  have hround := roundQuotient_le_of_le_mul (Nat.mul_pos hden (Nat.two_pow_pos _)) hquotient
  show roundQuotient num (den * 2 ^ lastPlace (num / den)) * 2 ^ lastPlace (num / den) ≤ x
  calc roundQuotient num (den * 2 ^ lastPlace (num / den)) * 2 ^ lastPlace (num / den)
    _ ≤ k * 2 ^ lastPlace (num / den) := Nat.mul_le_mul_right _ hround
    _ = x := hk.symm

theorem roundQuotient_mul {k den : Nat} (hden : 0 < den) :
  roundQuotient (k * den) den = k
  := by
  unfold roundQuotient
  rw [Nat.mul_div_cancel k hden, Nat.mul_mod_left]
  dsimp only
  rw [if_pos (by omega)]

/-- A number of the format is rounded to itself. -/
theorem HasPrecision.roundRatio_one {x : Nat} (hx : HasPrecision x) :
  roundRatio x 1 = x
  := by
  obtain ⟨k, hk⟩ := hx.exists_mul_lastPlace (Nat.le_of_eq (Nat.mul_one x).symm)
  have hplace := Nat.two_pow_pos (lastPlace (x / 1))
  show roundQuotient x (1 * 2 ^ lastPlace (x / 1)) * 2 ^ lastPlace (x / 1) = x
  generalize 2 ^ lastPlace (x / 1) = place at hk hplace ⊢
  rw [hk, Nat.one_mul, roundQuotient_mul hplace]

/-! ### Numbers below a bound -/

/-- Whether a number is finite, without a sign, and at most a bound in units. -/
def Within (bound : Nat) (x : Binary64) : Prop := ∃ u h, x = .finite false u h ∧ u ≤ bound

theorem within_ofRatio {num den bound : Nat} (hbound : HasPrecision bound)
    (hlimit : bound < unitLimit) (hden : 0 < den) (h : num ≤ bound * den) :
  Within bound (ofRatio false num den)
  := by
  have hround := roundRatio_le hbound hden h
  have hfinite : roundRatio num den < unitLimit := Nat.lt_of_le_of_lt hround hlimit
  rw [ofRatio, dif_pos hfinite]
  use roundRatio num den, roundRatio_fits hfinite

theorem Within.add {bound : Nat} {a b : Binary64} (hbound : HasPrecision bound)
    (hlimit : 2 * bound < unitLimit) (ha : Within bound a) (hb : Within bound b) :
  Within (2 * bound) (a.add b)
  := by
  obtain ⟨u, hu, rfl, hle⟩ := ha
  obtain ⟨v, hv, rfl, hle'⟩ := hb
  simp only [Binary64.add, Bool.false_eq_true, if_false]
  split
  · use 0, fits_zero, rfl, Nat.zero_le _
  · have hsign : decide ((u : Int) + v < 0) = false := decide_eq_false (by omega)
    rw [hsign]
    apply within_ofRatio hbound.double hlimit Nat.one_pos
    omega

theorem hasPrecision_unitsPerOne : HasPrecision unitsPerOne := by
  unfold unitsPerOne
  apply hasPrecision_two_pow

theorem unitsPerOne_pos : 0 < unitsPerOne := by
  unfold unitsPerOne
  apply Nat.pow_pos
  decide

theorem fits_two : FitsBinary64 (2 * unitsPerOne) :=
  ⟨by decide +kernel, hasPrecision_unitsPerOne.double⟩

theorem ofInt_two :
  Binary64.ofInt 2 = .finite false (2 * unitsPerOne) fits_two
  := by decide +kernel

theorem Within.half {bound : Nat} {a : Binary64} (hbound : HasPrecision bound)
    (hlimit : bound < unitLimit) (ha : Within (2 * bound) a) :
  Within bound (a.div (Binary64.ofInt 2))
  := by
  obtain ⟨u, hu, rfl, hle⟩ := ha
  have hone := unitsPerOne_pos
  rw [ofInt_two]
  simp only [Binary64.div]
  rw [if_neg (by omega)]
  apply within_ofRatio hbound hlimit (by omega)
  calc u * unitsPerOne
    _ ≤ 2 * bound * unitsPerOne := Nat.mul_le_mul_right _ hle
    _ = bound * (2 * unitsPerOne) := by rw [Nat.mul_comm 2, Nat.mul_assoc]

/-! ### Numbers with the negative zero -/

theorem ofRatio_zero (negative : Bool) {den : Nat} (hden : 0 < den) :
  ofRatio negative 0 den = zero negative
  := by
  have hzero : HasPrecision 0 := by
    use 0, 0
    decide
  have hround : roundRatio 0 den = 0 := Nat.le_zero.1 (roundRatio_le hzero hden (by omega))
  unfold ofRatio zero
  rw [dif_pos (by rw [hround]; apply unitLimit_pos)]
  simp only [hround]

/-- Whether a number is finite and at most a bound in units, and has a sign only if it is zero. -/
def AtMost (bound : Nat) (x : Binary64) : Prop :=
  ∃ s u h, x = .finite s u h ∧ u ≤ bound ∧ (s = true → u = 0)

section

variable {bound : Nat} {a b : Binary64}

theorem Within.atMost (h : Within bound a) :
  AtMost bound a
  := by
  obtain ⟨u, hu, rfl, hle⟩ := h
  use false, u, hu, rfl, hle
  rintro ⟨⟩

/-- Only the negative zero has a sign. -/
theorem AtMost.within (h : AtMost bound a) (hne : a ≠ .zero true) :
  Within bound a
  := by
  obtain ⟨s, u, hu, rfl, hle, hs⟩ := h
  cases s with
  | false => use u, hu
  | true =>
    obtain rfl := hs rfl
    cases hne rfl

theorem AtMost.add (hbound : HasPrecision bound) (hlimit : 2 * bound < unitLimit)
    (ha : AtMost bound a) (hb : AtMost bound b) :
  AtMost (2 * bound) (a.add b)
  := by
  have hsigned : ∀ {s : Bool} {u : Nat}, (s = true → u = 0) →
      (if s then -(u : Int) else u) = u := by
    intro s u hs
    cases s with
    | false => rfl
    | true => simp [hs rfl]
  obtain ⟨s, u, hu, rfl, hle, hs⟩ := ha
  obtain ⟨t, v, hv, rfl, hle', ht⟩ := hb
  simp only [Binary64.add, hsigned hs, hsigned ht]
  split
  · use s && t, 0, fits_zero, rfl, Nat.zero_le _
    intro
    rfl
  · have hsign : decide ((u : Int) + v < 0) = false := decide_eq_false (by omega)
    rw [hsign]
    apply Within.atMost
    apply within_ofRatio hbound.double hlimit Nat.one_pos
    omega

theorem AtMost.half (hbound : HasPrecision bound) (hlimit : bound < unitLimit)
    (ha : AtMost (2 * bound) a) :
  AtMost bound (a.div (Binary64.ofInt 2))
  := by
  by_cases hzero : a = .zero true
  · have hone := unitsPerOne_pos
    rw [hzero, ofInt_two]
    simp only [zero, Binary64.div]
    rw [if_neg (by omega), Nat.zero_mul, ofRatio_zero _ (by omega)]
    use true, 0, fits_zero, rfl, Nat.zero_le _
    intro
    rfl
  · apply (Within.half hbound hlimit (ha.within hzero)).atMost

end

/-! ### Comparisons -/

/-- A number without a sign is at most a finite one exactly if it is within its units. -/
theorem le_finite_iff {u bound : Nat} {hu : FitsBinary64 u} {hfits : FitsBinary64 bound} :
  (Binary64.finite false u hu).le (.finite false bound hfits) = true ↔ u ≤ bound
  := by
  simp only [Binary64.le, ordered, lt, Bool.true_and, Bool.not_eq_true', decide_eq_false_iff_not,
    Bool.false_eq_true, if_false]
  omega

/-- A finite number above zero has no sign. -/
theorem exists_finite_of_lt {x : Binary64} (hfinite : x.isFinite = true)
    (hpos : (Binary64.zero false).lt x = true) :
  ∃ u hu, x = .finite false u hu ∧ 0 < u
  := by
  cases x with
  | finite s u hu =>
    simp only [Binary64.zero, lt, decide_eq_true_eq] at hpos
    cases s with
    | false =>
      use u, hu, rfl
      simpa using hpos
    | true =>
      simp only [if_true, Bool.false_eq_true, if_false] at hpos
      omega
  | infinite s => cases hfinite
  | nan s => cases hfinite

theorem zero_lt_of_not_le {x : Binary64} (hfinite : x.isFinite = true)
    (h : ¬x.le (.zero false) = true) :
  (Binary64.zero false).lt x = true
  := by
  cases x with
  | finite s u hu => simpa [Binary64.le, ordered, zero] using h
  | infinite s => cases hfinite
  | nan s => cases hfinite

/-- A whole number with at most 53 bits is as many times one. -/
theorem exists_ofInt_finite {n : Nat} (hn : n ≤ 2 ^ 53) :
  ∃ h, Binary64.ofInt n = .finite false (n * unitsPerOne) h
  := by
  have hprecision : HasPrecision (n * unitsPerOne) := by
    unfold unitsPerOne
    apply hasPrecision_mul_two_pow hn
  have hlimit : n * unitsPerOne < unitLimit := by
    apply Nat.lt_of_le_of_lt (Nat.mul_le_mul_right _ hn)
    decide +kernel
  have hsign : decide ((n : Int) < 0) = false := decide_eq_false (by omega)
  use ⟨hlimit, hprecision⟩
  rw [Binary64.ofInt, hsign, Int.natAbs_natCast, ofRatio]
  generalize unitsPerOne = one at hprecision hlimit ⊢
  have hround := hprecision.roundRatio_one
  rw [dif_pos (by rw [hround]; exact hlimit)]
  simp only [hround]

theorem units?_ofInt {n : Nat} (hn : n ≤ 2 ^ 53) :
  (Binary64.ofInt n).units? = some (n * unitsPerOne)
  := by
  obtain ⟨h, hofInt⟩ := exists_ofInt_finite hn
  rw [hofInt]
  rfl

theorem two_pow_mul_unitsPerOne (n : Nat) :
  2 ^ n * unitsPerOne = Nat.pow 2 (n + 1074)
  := by
  have hadd : ∀ k, 2 ^ n * Nat.pow 2 k = Nat.pow 2 (n + k) := fun k => (Nat.pow_add 2 n k).symm
  unfold unitsPerOne
  apply hadd

/-- A 64-bit integer that a number above zero is at most is far below the limit of the finite
numbers. -/
theorem exists_ofInt_eq {u : Nat} {hu : FitsBinary64 u} {n : Int} (hpos : 0 < u)
    (hn : n < 0x8000000000000000) (h : (Binary64.finite false u hu).le (.ofInt n) = true) :
  ∃ bound hfits, Binary64.ofInt n = .finite false bound hfits ∧ 2 * bound < unitLimit
  := by
  rcases Int.lt_or_le n 0 with hneg | hnonneg
  · -- nothing above zero is at most a negative number
    have hsign : decide (n < 0) = true := decide_eq_true hneg
    rw [ofInt, hsign, ofRatio] at h
    split at h
    · simp only [Binary64.le, ordered, lt, Bool.true_and, Bool.not_eq_true',
        decide_eq_false_iff_not, Bool.false_eq_true, if_false, if_true] at h
      omega
    · cases h
  · have hsign : decide (n < 0) = false := decide_eq_false (by omega)
    obtain ⟨top, hprecision, hlimit, hscale⟩ : ∃ top, HasPrecision top ∧ 2 * top < unitLimit
        ∧ 2 ^ 63 * unitsPerOne = top :=
      ⟨_, hasPrecision_two_pow _, by decide +kernel, two_pow_mul_unitsPerOne 63⟩
    have hwithin : Within top (ofRatio false (n.natAbs * unitsPerOne) 1) := by
      apply within_ofRatio hprecision (by omega) Nat.one_pos
      rw [Nat.mul_one, ← hscale]
      apply Nat.mul_le_mul_right
      omega
    obtain ⟨bound, hfits, heq, hle⟩ := hwithin
    use bound, hfits
    constructor
    · rw [ofInt, hsign, heq]
    · omega

end Binary64

end PerfGate
