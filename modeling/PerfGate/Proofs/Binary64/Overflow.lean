import Mathlib.Tactic.Linarith
import Mathlib.Tactic.NormNum
import PerfGate.Proofs.Baseline.Figure
import PerfGate.Proofs.Binary64.Rounding

/-!
# Where numbers overflow

A ratio is rounded to a finite number exactly if it lies below the middle between the largest finite
number and the power of two behind that (`roundRatio_lt_unitLimit_iff`).  So a product or a quotient
of numbers without a sign is finite below that bound, and infinite from there on.
-/

namespace PerfGate

namespace Binary64

/-! ### Rounding between neighbours -/

theorem le_roundQuotient (num den : Nat) :
  num / den ≤ roundQuotient num den
  := by
  unfold roundQuotient
  dsimp only
  split
  · exact Nat.le_refl _
  · split
    · omega
    · split <;> omega

/-- A ratio is rounded to a number at most exactly if it is below the middle behind that number, or
in the middle and the number is even. -/
theorem roundQuotient_le_iff {num den k : Nat} (hden : 0 < den) :
  roundQuotient num den ≤ k ↔
    2 * num < (2 * k + 1) * den ∨ k % 2 = 0 ∧ 2 * num = (2 * k + 1) * den
  := by
  have hdivmod := Nat.div_add_mod num den
  have hr := Nat.mod_lt num hden
  have hle := le_roundQuotient num den
  have hround := roundQuotient_le num den
  have hbound : (2 * k + 1) * den = 2 * (den * k) + den := by ring
  rw [hbound]
  rcases Nat.lt_trichotomy (num / den) k with hlt | heq | hgt
  · have hmul : den * (num / den + 1) ≤ den * k := Nat.mul_le_mul_left _ hlt
    rw [Nat.mul_succ] at hmul
    omega
  · rw [heq] at hdivmod
    unfold roundQuotient
    rw [heq]
    dsimp only
    split
    · omega
    · split
      · omega
      · split
        · omega
        · omega
  · have hmul : den * (k + 1) ≤ den * (num / den) := Nat.mul_le_mul_left _ hgt
    rw [Nat.mul_succ] at hmul
    omega

/-- A ratio that is not below one is rounded to no less than its first bit. -/
theorem two_pow_log2_le_roundRatio {num den : Nat} (hne : num / den ≠ 0) :
  2 ^ (num / den).log2 ≤ roundRatio num den
  := by
  show _ ≤ roundQuotient num (den * 2 ^ lastPlace (num / den)) * 2 ^ lastPlace (num / den)
  have hplace := Nat.two_pow_pos (lastPlace (num / den))
  have hle : lastPlace (num / den) ≤ (num / den).log2 := Nat.sub_le _ _
  have hquotient : 2 ^ ((num / den).log2 - lastPlace (num / den))
      ≤ num / (den * 2 ^ lastPlace (num / den)) := by
    rw [← Nat.div_div_eq_div_mul, Nat.le_div_iff_mul_le hplace, ← Nat.pow_add,
      Nat.sub_add_cancel hle]
    apply Nat.log2_self_le hne
  calc 2 ^ (num / den).log2
    _ = 2 ^ ((num / den).log2 - lastPlace (num / den)) * 2 ^ lastPlace (num / den) := by
      rw [← Nat.pow_add, Nat.sub_add_cancel hle]
    _ ≤ _ := Nat.mul_le_mul_right _ (hquotient.trans (le_roundQuotient _ _))

/-- A ratio is rounded to less than the number behind one with 53 significant bits exactly if it is
below the middle between the two, or in the middle and the last of the bits is not set. -/
theorem roundRatio_lt_iff {num den k n : Nat} (hden : 0 < den) (hk : 2 ^ 52 ≤ k)
    (hk' : k < 2 ^ 53) :
  roundRatio num den < (k + 1) * 2 ^ n ↔
    2 * num < (2 * k + 1) * (den * 2 ^ n) ∨ k % 2 = 0 ∧ 2 * num = (2 * k + 1) * (den * 2 ^ n)
  := by
  have hplace := Nat.two_pow_pos n
  have hsplit : 2 ^ (n + 52) = 2 ^ 52 * 2 ^ n := by rw [Nat.add_comm, Nat.pow_add]
  have hsplit' : 2 ^ (n + 53) = 2 ^ 53 * 2 ^ n := by rw [Nat.add_comm, Nat.pow_add]
  have hprod := Nat.mul_pos hden hplace
  rcases Nat.lt_or_ge (num / den) (2 ^ (n + 52)) with hlow | hmid
  · have hnum : num < 2 ^ (n + 52) * den := (Nat.div_lt_iff_lt_mul hden).1 hlow
    have hround : roundRatio num den ≤ 2 ^ (n + 52) :=
      roundRatio_le (hasPrecision_two_pow _) hden hnum.le
    have hless : roundRatio num den < (k + 1) * 2 ^ n := by
      calc roundRatio num den
        _ ≤ 2 ^ 52 * 2 ^ n := hsplit ▸ hround
        _ < (k + 1) * 2 ^ n := Nat.mul_lt_mul_of_pos_right (Nat.lt_succ_of_le hk) hplace
    rw [hsplit, Nat.mul_assoc, Nat.mul_comm _ den] at hnum
    have hbound : 2 ^ 52 * (den * 2 ^ n) ≤ k * (den * 2 ^ n) := Nat.mul_le_mul_right _ hk
    simp only [hless, true_iff]
    left
    rw [Nat.add_mul, Nat.mul_assoc]
    omega
  · rcases Nat.lt_or_ge (num / den) (2 ^ (n + 53)) with hhigh | hhigh
    · -- the last place is that of the power of two itself
      have hne : num / den ≠ 0 := by
        have hpos := Nat.two_pow_pos (n + 52)
        omega
      have hlog : (num / den).log2 = n + 52 := by
        apply Nat.le_antisymm
        · apply Nat.le_of_lt_succ
          apply (Nat.log2_lt hne).2 hhigh
        · apply (Nat.le_log2 hne).2 hmid
      have hlast : lastPlace (num / den) = n := by
        rw [lastPlace, hlog, Nat.add_sub_cancel]
      show roundQuotient num (den * 2 ^ lastPlace (num / den)) * 2 ^ lastPlace (num / den) < _ ↔ _
      rw [hlast, Nat.mul_lt_mul_right hplace, Nat.lt_succ_iff]
      apply roundQuotient_le_iff hprod
    · have hnum : 2 ^ (n + 53) * den ≤ num := (Nat.le_div_iff_mul_le hden).1 hhigh
      rw [hsplit', Nat.mul_assoc, Nat.mul_comm _ den] at hnum
      have hne : num / den ≠ 0 := by
        have hpos := Nat.two_pow_pos (n + 53)
        omega
      have hround : 2 ^ (n + 53) ≤ roundRatio num den := by
        apply le_trans _ (two_pow_log2_le_roundRatio hne)
        apply Nat.pow_le_pow_right (by omega)
        apply (Nat.le_log2 hne).2 hhigh
      have hmore : (k + 1) * 2 ^ n ≤ roundRatio num den := by
        calc (k + 1) * 2 ^ n
          _ ≤ 2 ^ 53 * 2 ^ n := Nat.mul_le_mul_right _ hk'
          _ ≤ roundRatio num den := hsplit' ▸ hround
      have hbound : (k + 1) * (den * 2 ^ n) ≤ 2 ^ 53 * (den * 2 ^ n) := Nat.mul_le_mul_right _ hk'
      simp only [Nat.not_lt.2 hmore, false_iff]
      rw [Nat.add_mul, Nat.mul_assoc]
      rw [Nat.add_mul] at hbound
      omega
/-- A ratio is rounded to less than a power of two exactly if it is below the middle between that
and the number with 53 significant bits in front of it. -/
theorem roundRatio_lt_two_pow_iff {num den n : Nat} (hden : 0 < den) :
  roundRatio num den < Nat.pow 2 (n + 53) ↔ 2 * num < (2 ^ 54 - 1) * (den * 2 ^ n)
  := by
  have hless : roundRatio num den < (2 ^ 53 - 1 + 1) * 2 ^ n ↔ _ :=
    roundRatio_lt_iff hden (by decide) (by decide)
  have hpow : (2 ^ 53 - 1 + 1) * 2 ^ n = 2 ^ (n + 53) := by
    rw [Nat.sub_add_cancel (by decide), ← Nat.pow_add, Nat.add_comm]
  rw [hpow] at hless
  show roundRatio num den < 2 ^ (n + 53) ↔ _
  rw [hless]
  omega

/-- Between two neighbours there is nothing that a ratio is rounded to. -/
theorem roundRatio_le_of_lt {num den k n : Nat} (hk : 2 ^ 52 ≤ k) (hk' : k < 2 ^ 53)
    (hlimit : n + 53 ≤ limitExponent) (h : roundRatio num den < (k + 1) * 2 ^ n) :
  roundRatio num den ≤ k * 2 ^ n
  := by
  have hfinite : roundRatio num den < unitLimit := by
    apply lt_unitLimit _ hlimit
    show roundRatio num den < 2 ^ (n + 53)
    calc roundRatio num den
      _ < (k + 1) * 2 ^ n := h
      _ ≤ 2 ^ 53 * 2 ^ n := Nat.mul_le_mul_right _ hk'
      _ = 2 ^ (n + 53) := by rw [← Nat.pow_add, Nat.add_comm]
  apply HasPrecision.le_of_lt (roundRatio_fits hfinite).2 hk h

/-- The last place of a ratio that is rounded to a number below a power of two. -/
theorem lastPlace_le {num den n : Nat} (h : roundRatio num den < 2 ^ (n + 53)) :
  lastPlace (num / den) ≤ n
  := by
  by_cases hne : num / den = 0
  · rw [hne]
    apply Nat.zero_le
  · have hlog : (num / den).log2 < n + 53 := by
      apply (Nat.pow_lt_pow_iff_right (by decide : 1 < 2)).1
      apply (two_pow_log2_le_roundRatio hne).trans_lt h
    unfold lastPlace
    omega

/-- Rounding loses less than one in the last place. -/
theorem lt_roundRatio_add {num den n : Nat} (hden : 0 < den)
    (h : roundRatio num den < 2 ^ (n + 53)) :
  num < (roundRatio num den + 2 ^ n) * den
  := by
  have hlast : 2 ^ lastPlace (num / den) ≤ 2 ^ n :=
    Nat.pow_le_pow_right (by decide) (lastPlace_le h)
  have hplace := Nat.two_pow_pos (lastPlace (num / den))
  show num < (roundQuotient num (den * 2 ^ lastPlace (num / den)) * 2 ^ lastPlace (num / den)
    + 2 ^ n) * den
  generalize 2 ^ lastPlace (num / den) = place at hlast hplace ⊢
  have hquotient := le_roundQuotient num (den * place)
  calc num
    _ < (den * place) * (num / (den * place) + 1) :=
      Nat.lt_mul_div_succ num (Nat.mul_pos hden hplace)
    _ ≤ (den * place) * (roundQuotient num (den * place) + 1) := by
      apply Nat.mul_le_mul_left
      omega
    _ = (roundQuotient num (den * place) * place + place) * den := by ring
    _ ≤ (roundQuotient num (den * place) * place + 2 ^ n) * den := by
      apply Nat.mul_le_mul_right
      omega

/-! ### The bound -/

/-- The bound from which on numbers overflow: the middle between the largest finite number and the
power of two behind it. -/
def overflow : ℚ := 2 ^ 1024 - 2 ^ 970

theorem overflow_eq :
  overflow = (2 ^ 54 - 1) * 2 ^ 970
  := by
  rw [overflow, sub_mul, ← pow_add, one_mul]

theorem cast_lt_overflow {n : Nat} (h : n ≤ 2 ^ 64) :
  (n : ℚ) < overflow
  := by
  have hn : (n : ℚ) ≤ 2 ^ 64 := by exact_mod_cast h
  have hpow : (2 : ℚ) ^ 64 ≤ 2 ^ 970 := pow_le_pow_right₀ (by norm_num) (by norm_num)
  have hpos : (0 : ℚ) < 2 ^ 970 := by positivity
  rw [overflow_eq]
  generalize (2 : ℚ) ^ 970 = x at hpow hpos
  linarith

theorem roundRatio_lt_unitLimit_iff {num den : Nat} (hden : 0 < den) :
  roundRatio num den < unitLimit ↔ (num : ℚ) / den / unitsPerOne < overflow
  := by
  have hexponent : limitExponent = 2045 + 53 := rfl
  have hcast : ∀ n, ((Nat.pow 2 n : ℕ) : ℚ) = 2 ^ n := by
    intro n
    rw [Nat.pow_eq, Nat.cast_pow, Nat.cast_ofNat]
  have hsplit : (2 : ℚ) ^ 2045 = 2 * 2 ^ 970 * 2 ^ 1074 := by rw [← pow_succ', ← pow_add]
  have hone : (0 : ℚ) < 2 ^ 1074 := by positivity
  have hden' : (0 : ℚ) < den := by exact_mod_cast hden
  have hmiddle : ∀ n, 2 * num < (2 ^ 54 - 1) * (den * 2 ^ n)
      ↔ 2 * (num : ℚ) < (2 ^ 54 - 1) * (den * 2 ^ n) := by
    intro n
    have hbits : ((2 ^ 54 - 1 : ℕ) : ℚ) = 2 ^ 54 - 1 := by norm_num
    rw [← Nat.cast_lt (α := ℚ), Nat.cast_mul, Nat.cast_mul, hbits]
    push_cast
    rfl
  unfold unitLimit unitsPerOne
  rw [hexponent, roundRatio_lt_two_pow_iff (n := 2045) hden, hmiddle, hsplit, hcast 1074, overflow_eq,
    div_lt_iff₀ hone, div_lt_iff₀ hden']
  generalize (2 : ℚ) ^ 970 = x
  generalize (2 : ℚ) ^ 1074 = y
  constructor
  · intro
    linarith
  · intro
    linarith

/-! ### Numbers without a sign -/

/-- Whether a number is finite and has no sign. -/
def IsMagnitude (x : Binary64) : Prop := ∃ u h, x = .finite false u h

/-- Whether a number is what an exact value without a sign is calculated as: below the bound one
that is finite and has no sign either, and from there on infinity. -/
def Carries (v : ℚ) (x : Binary64) : Prop :=
  (v < overflow → x.IsMagnitude) ∧ (overflow ≤ v → x = .infinite false)

theorem carries_ofRatio (num : Nat) {den : Nat} (hden : 0 < den) :
  Carries ((num : ℚ) / den / unitsPerOne) (ofRatio false num den)
  := by
  constructor
  · intro hless
    have hlimit := (roundRatio_lt_unitLimit_iff hden).2 hless
    rw [ofRatio, dif_pos hlimit]
    exact ⟨_, _, rfl⟩
  · intro hmore
    rw [ofRatio, dif_neg]
    rw [roundRatio_lt_unitLimit_iff hden]
    exact not_lt.2 hmore

variable {a b : Binary64} {v w : ℚ}

theorem units_pos : (0 : ℚ) < unitsPerOne := by exact_mod_cast unitsPerOne_pos

/-- A number without a sign has an exact value, which is its count of units. -/
theorem IsMagnitude.exists_value? (h : a.IsMagnitude) :
  ∃ v, a.value? = some v ∧ 0 ≤ v
  := by
  obtain ⟨u, hu, rfl⟩ := h
  exact ⟨(u : ℚ) / unitsPerOne, rfl, div_nonneg (Nat.cast_nonneg u) units_pos.le⟩

/-- Only zero has the exact value zero. -/
theorem IsMagnitude.isZero_iff (h : a.IsMagnitude) (hv : a.value? = some v) :
  a.isZero = true ↔ v = 0
  := by
  obtain ⟨u, hu, rfl⟩ := h
  have hv : (u : ℚ) / unitsPerOne = v := Option.some.inj hv
  rw [← hv, div_eq_zero_iff, or_iff_left units_pos.ne', Nat.cast_eq_zero]
  simp [isZero]

theorem carries_mul (ha : a.IsMagnitude) (hb : b.IsMagnitude) (hv : a.value? = some v)
    (hw : b.value? = some w) :
  Carries (v * w) (a.mul b)
  := by
  obtain ⟨x, hx, rfl⟩ := ha
  obtain ⟨y, hy, rfl⟩ := hb
  have hv : (x : ℚ) / unitsPerOne = v := Option.some.inj hv
  have hw : (y : ℚ) / unitsPerOne = w := Option.some.inj hw
  have hproduct : v * w = ((x * y : ℕ) : ℚ) / unitsPerOne / unitsPerOne := by
    rw [← hv, ← hw, Nat.cast_mul]
    ring
  rw [hproduct]
  exact carries_ofRatio (x * y) unitsPerOne_pos

theorem carries_div (ha : a.IsMagnitude) (hb : b.IsMagnitude) (hv : a.value? = some v)
    (hw : b.value? = some w) (hne : w ≠ 0) :
  Carries (v / w) (a.div b)
  := by
  obtain ⟨x, hx, rfl⟩ := ha
  obtain ⟨y, hy, rfl⟩ := hb
  have hv : (x : ℚ) / unitsPerOne = v := Option.some.inj hv
  have hw : (y : ℚ) / unitsPerOne = w := Option.some.inj hw
  have hone := units_pos
  have hy0 : y ≠ 0 := by
    rintro rfl
    apply hne
    rw [← hw, Nat.cast_zero, zero_div]
  have hquotient : v / w = ((x * unitsPerOne : ℕ) : ℚ) / y / unitsPerOne := by
    rw [← hv, ← hw, Nat.cast_mul]
    field_simp
  rw [hquotient]
  simp only [Binary64.div, if_neg hy0]
  exact carries_ofRatio (x * unitsPerOne) (Nat.pos_of_ne_zero hy0)

/-! ### Whole numbers and fractions -/

theorem carries_ofFraction (n : Nat) {d : Nat} (hd : 0 < d) :
  Carries ((n : ℚ) / d) (ofFraction n d)
  := by
  have hone := units_pos
  have hfraction : (n : ℚ) / d = ((n * unitsPerOne : ℕ) : ℚ) / d / unitsPerOne := by
    rw [Nat.cast_mul]
    field_simp
  rw [hfraction]
  exact carries_ofRatio (n * unitsPerOne) hd

theorem isMagnitude_ofInt {n : Nat} (hn : n ≤ 2 ^ 64) :
  (Binary64.ofInt n).IsMagnitude
  := by
  have hfraction := carries_ofFraction n Nat.one_pos
  rw [Nat.cast_one, div_one] at hfraction
  have hsign : decide ((n : Int) < 0) = false := decide_eq_false (by omega)
  rw [Binary64.ofInt, hsign, Int.natAbs_natCast]
  apply hfraction.1 (cast_lt_overflow hn)

/-! ### Signs -/

/-- A ratio that is not below one is rounded to a number above zero. -/
theorem zero_lt_ofRatio {num den : Nat} (hden : 0 < den) (h : den ≤ num) :
  (zero false).lt (ofRatio false num den) = true
  := by
  unfold ofRatio
  split
  · have hquotient : num / den ≠ 0 := (Nat.div_pos h hden).ne'
    have hround : 0 < roundRatio num den :=
      (Nat.two_pow_pos _).trans_le (two_pow_log2_le_roundRatio hquotient)
    simpa [zero, lt] using hround
  · rfl

end Binary64

end PerfGate
