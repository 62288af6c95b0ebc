import PerfGate.Proofs.Binary64.Overflow

/-!
# Correct rounding

A number is an exact value correctly rounded if no number with 53 significant bits is nearer to the
value, and if of two equally near ones it has the even last bit (`IsNearestCount`).  There is at
most one such number (`IsNearestCount.unique`), and for a ratio it is the one that the ratio is
rounded to (`rounds_iff`).
-/

namespace PerfGate

namespace Binary64

/-- Whether a count of units with 53 significant bits is nearest to an exact amount of them; of two
equally near counts it is the one with the even last bit. -/
structure IsNearestCount (a : ℚ) (u : Nat) : Prop where
  /-- The count has at most 53 significant bits. -/
  precise : HasPrecision u
  /-- No count with as many bits is nearer. -/
  near : ∀ w, HasPrecision w → |a - u| ≤ |a - w|
  /-- If another one is as near, the last bit of this one is even. -/
  even : ∀ w, HasPrecision w → w ≠ u → |a - u| = |a - w| → Even (u / 2 ^ lastPlace u)

/-- Whether a number is finite, has the given sign, and is an exact magnitude correctly rounded. -/
def Rounds (negative : Bool) (v : ℚ) (x : Binary64) : Prop :=
  ∃ u h, x = .finite negative u h ∧ IsNearestCount (v * unitsPerOne) u

/-! ### The last bit -/

/-- The place of the last bit is that behind 53 bits of which the first is set. -/
theorem lastPlace_mul {q s : Nat} (hq : q < 2 ^ 53) (hfirst : s = 0 ∨ 2 ^ 52 ≤ q) :
  lastPlace (q * 2 ^ s) = s
  := by
  unfold lastPlace
  rcases hfirst with rfl | hfirst
  · rw [Nat.pow_zero, Nat.mul_one]
    by_cases hzero : q = 0
    · rw [hzero]
      rfl
    · have hlog := (Nat.log2_lt hzero).2 hq
      omega
  · have hplace := Nat.two_pow_pos s
    have hne : q * 2 ^ s ≠ 0 := Nat.mul_ne_zero (by omega) hplace.ne'
    have hlow : s + 52 ≤ (q * 2 ^ s).log2 := by
      rw [Nat.le_log2 hne, Nat.add_comm, Nat.pow_add]
      apply Nat.mul_le_mul_right _ hfirst
    have hhigh : (q * 2 ^ s).log2 < s + 53 := by
      rw [Nat.log2_lt hne, Nat.add_comm, Nat.pow_add]
      apply Nat.mul_lt_mul_of_pos_right hq hplace
    omega

/-- The last bit of a count is that of its 53 bits, of which the first is set. -/
theorem even_lastBit_iff {q s : Nat} (hq : q ≤ 2 ^ 53) (hfirst : s = 0 ∨ 2 ^ 52 ≤ q) :
  Even (q * 2 ^ s / 2 ^ lastPlace (q * 2 ^ s)) ↔ Even q
  := by
  rcases Nat.lt_or_eq_of_le hq with hlt | rfl
  · rw [lastPlace_mul hlt hfirst, Nat.mul_div_cancel _ (Nat.two_pow_pos s)]
  · -- one bit more, which is a zero
    have hcarry : 2 ^ 53 * 2 ^ s = 2 ^ 52 * 2 ^ (s + 1) := by omega
    rw [hcarry, lastPlace_mul (by decide) (by omega), Nat.mul_div_cancel _ (Nat.two_pow_pos _)]
    decide

/-- A count with 53 significant bits is given by those bits, and the first of them is set unless
the last is the very last. -/
theorem HasPrecision.exists_bits {u : Nat} (hu : HasPrecision u) :
  ∃ q s, q < 2 ^ 53 ∧ (s = 0 ∨ 2 ^ 52 ≤ q) ∧ u = q * 2 ^ s
  := by
  obtain ⟨q, hq⟩ := hu.exists_mul_lastPlace (Nat.le_of_eq (Nat.mul_one u).symm)
  rw [Nat.div_one] at hq
  have hplace := Nat.two_pow_pos (lastPlace u)
  use q, lastPlace u
  constructor
  · have hbits : u / (1 * 2 ^ lastPlace (u / 1)) < 2 ^ 53 := div_shifted_lt u 1
    rw [Nat.div_one, Nat.one_mul, Nat.div_lt_iff_lt_mul hplace] at hbits
    generalize lastPlace u = s at hq hbits
    rw [hq] at hbits
    apply Nat.lt_of_mul_lt_mul_right hbits
  · refine ⟨?_, hq⟩
    rw [or_iff_not_imp_left]
    intro hlast
    have hlog : u.log2 = 52 + lastPlace u := by
      unfold lastPlace at hlast ⊢
      omega
    have hne : u ≠ 0 := by
      rintro rfl
      apply hlast
      rfl
    have hfirst : 2 ^ 52 * 2 ^ lastPlace u ≤ u := by
      rw [← Nat.pow_add, ← hlog]
      apply Nat.log2_self_le hne
    generalize lastPlace u = s at hq hfirst hplace
    rw [hq] at hfirst
    apply Nat.le_of_mul_le_mul_right hfirst hplace

/-! ### Uniqueness -/

/-- Of two neighbours one has an odd last bit. -/
theorem IsNearestCount.le_of_le {a : ℚ} {u w : Nat} (hu : IsNearestCount a u)
    (hw : IsNearestCount a w) :
  w ≤ u
  := by
  by_contra hlt
  rw [Nat.not_le] at hlt
  have hcast : (u : ℚ) < w := by exact_mod_cast hlt
  have htie : |a - u| = |a - w| := le_antisymm (hu.near w hw.precise) (hw.near u hu.precise)
  -- nothing of the format is between the two, for it would be nearer
  have hbetween : ∀ x, HasPrecision x → u < x → w ≤ x := by
    intro x hx hless
    by_contra hmore
    rw [Nat.not_le] at hmore
    have hless : (u : ℚ) < x := by exact_mod_cast hless
    have hmore : (x : ℚ) < w := by exact_mod_cast hmore
    have hmiddle : a - u = -(a - w) := by
      rcases abs_eq_abs.1 htie with hsame | hopposite
      · linarith
      · apply hopposite
    have hnear := hu.near x hx
    rw [abs_of_nonneg (by linarith), le_abs] at hnear
    rcases hnear with hnear | hnear
    · linarith
    · linarith
  obtain ⟨q, s, hq, hfirst, rfl⟩ := hu.precise.exists_bits
  have hplace := Nat.two_pow_pos s
  have hnext : w = (q + 1) * 2 ^ s := by
    apply Nat.le_antisymm
    · apply hbetween _ (hasPrecision_mul_two_pow hq s)
      apply Nat.mul_lt_mul_of_pos_right (Nat.lt_succ_self q) hplace
    · by_contra hmore
      rw [Nat.not_le] at hmore
      rcases hfirst with rfl | hfirst
      · omega
      · have hle := hw.precise.le_of_lt hfirst hmore
        omega
  have heven := hu.even w hw.precise hlt.ne' htie
  have heven' := hw.even _ hu.precise hlt.ne htie.symm
  rw [even_lastBit_iff hq.le hfirst] at heven
  rw [hnext, even_lastBit_iff hq (by omega), Nat.even_add_one] at heven'
  apply heven' heven

/-- There is only one count that is nearest. -/
theorem IsNearestCount.unique {a : ℚ} {u w : Nat} (hu : IsNearestCount a u)
    (hw : IsNearestCount a w) :
  u = w
  := Nat.le_antisymm (hw.le_of_le hu) (hu.le_of_le hw)

/-! ### Rounding -/

/-- A number of the format is either a multiple of the last place of a ratio or further from it than
some such multiple. -/
theorem HasPrecision.multiple_or_lt {den w : Nat} (hw : HasPrecision w) (num : Nat)
    (hden : 0 < den) :
  (∃ k, w = k * 2 ^ lastPlace (num / den))
    ∨ |(num : ℚ) / den - (2 ^ 52 * 2 ^ lastPlace (num / den) : Nat)| < |(num : ℚ) / den - w|
  := by
  rw [or_iff_not_imp_left]
  intro hnone
  have hpos : (0 : ℚ) < den := by exact_mod_cast hden
  obtain ⟨q, s, hq, -, rfl⟩ := hw.exists_bits
  -- the last place is beyond that of the number, so there are 53 bits in front of it
  have hlow : s < lastPlace (num / den) := by
    by_contra hge
    obtain ⟨d, rfl⟩ := Nat.exists_eq_add_of_le (Nat.not_lt.1 hge)
    apply hnone
    use q * 2 ^ d
    rw [Nat.mul_assoc, ← Nat.pow_add, Nat.add_comm d]
  have hne : num / den ≠ 0 := by
    intro hzero
    rw [hzero] at hlow
    cases hlow
  have hlog : (num / den).log2 = 52 + lastPlace (num / den) := by
    unfold lastPlace at hlow ⊢
    omega
  have hbelow : q * 2 ^ s < 2 ^ 52 * 2 ^ lastPlace (num / den) := by
    calc q * 2 ^ s
      _ < 2 ^ 53 * 2 ^ s := Nat.mul_lt_mul_of_pos_right hq (Nat.two_pow_pos s)
      _ = 2 ^ 52 * 2 ^ (s + 1) := by omega
      _ ≤ 2 ^ 52 * 2 ^ lastPlace (num / den) :=
        Nat.mul_le_mul_left _ (Nat.pow_le_pow_right (by decide) hlow)
  have hratio : 2 ^ 52 * 2 ^ lastPlace (num / den) * den ≤ num := by
    rw [← Nat.le_div_iff_mul_le hden, ← Nat.pow_add, ← hlog]
    apply Nat.log2_self_le hne
  generalize 2 ^ 52 * 2 ^ lastPlace (num / den) = top at hbelow hratio ⊢
  generalize q * 2 ^ s = w at hbelow ⊢
  have hbelow : (w : ℚ) < top := by exact_mod_cast hbelow
  have hratio : (top : ℚ) ≤ num / den := by
    rw [le_div_iff₀ hpos]
    exact_mod_cast hratio
  rw [abs_of_nonneg (by linarith), abs_of_nonneg (by linarith)]
  linarith

theorem half_le_abs_sub {b : ℚ} {q k : Nat} (h : |b - q| ≤ 1 / 2) (hne : k ≠ q) :
  1 / 2 ≤ |b - k|
  := by
  obtain ⟨hlow, hhigh⟩ := abs_le.1 h
  rw [le_abs]
  rcases Nat.lt_or_gt_of_ne hne with hlt | hgt
  · have hstep : (k : ℚ) + 1 ≤ q := by exact_mod_cast hlt
    left
    linarith
  · have hstep : (q : ℚ) + 1 ≤ k := by exact_mod_cast hgt
    right
    linarith

theorem hasPrecision_roundRatio (num den : Nat) :
  HasPrecision (roundRatio num den)
  := by
  have hround := roundQuotient_le num (den * Nat.pow 2 (lastPlace (num / den)))
  have hbits := div_shifted_lt num den
  apply hasPrecision_mul_two_pow
  omega

/-- The 53 bits of a rounded ratio start with one that is set, unless they are the very last. -/
theorem firstBit_roundQuotient (num den : Nat) :
  lastPlace (num / den) = 0
    ∨ 2 ^ 52 ≤ roundQuotient num (den * 2 ^ lastPlace (num / den))
  := by
  rw [or_iff_not_imp_left]
  intro hlast
  have hlog : (num / den).log2 = 52 + lastPlace (num / den) := by
    unfold lastPlace at hlast ⊢
    omega
  have hne : num / den ≠ 0 := by
    intro hzero
    apply hlast
    rw [hzero]
    rfl
  apply le_trans _ (le_roundQuotient _ _)
  rw [← Nat.div_div_eq_div_mul, Nat.le_div_iff_mul_le (Nat.two_pow_pos _), ← Nat.pow_add, ← hlog]
  apply Nat.log2_self_le hne

/-- How far a ratio is from a multiple of a place, counted in that place. -/
theorem abs_div_sub_mul_two_pow (num : Nat) {den : Nat} (hden : 0 < den) (k s : Nat) :
  |(num : ℚ) / den - (k * 2 ^ s : Nat)| = |(num : ℚ) / (den * 2 ^ s : Nat) - k| * 2 ^ s
  := by
  have hpos : (0 : ℚ) < 2 ^ s := by positivity
  have hden' : (den : ℚ) ≠ 0 := by exact_mod_cast hden.ne'
  rw [← abs_of_pos hpos, ← abs_mul, sub_mul, Nat.cast_mul, Nat.cast_mul, Nat.cast_pow,
    Nat.cast_ofNat]
  congr 2
  field_simp

/-- A ratio is rounded to the count that is nearest to it. -/
theorem isNearestCount_roundRatio (num : Nat) {den : Nat} (hden : 0 < den) :
  IsNearestCount ((num : ℚ) / den) (roundRatio num den)
  := by
  have hplace := Nat.two_pow_pos (lastPlace (num / den))
  have hfirst := firstBit_roundQuotient num den
  have hbits : roundQuotient num (den * 2 ^ lastPlace (num / den)) ≤ 2 ^ 53 := by
    have hround := roundQuotient_le num (den * 2 ^ lastPlace (num / den))
    have hless : num / (den * 2 ^ lastPlace (num / den)) < 2 ^ 53 := div_shifted_lt num den
    omega
  obtain ⟨hhalf, hodd⟩ := abs_div_sub_roundQuotient num (Nat.mul_pos hden hplace)
  have hmultiple := fun w (hw : HasPrecision w) => hw.multiple_or_lt num hden
  have hprecise := hasPrecision_roundRatio num den
  rw [show roundRatio num den = roundQuotient num (den * 2 ^ lastPlace (num / den))
    * 2 ^ lastPlace (num / den) from rfl] at hprecise ⊢
  generalize roundQuotient num (den * 2 ^ lastPlace (num / den)) = q at *
  generalize lastPlace (num / den) = s at *
  have hpos : (0 : ℚ) < 2 ^ s := by positivity
  have hnear : ∀ k : Nat, |(num : ℚ) / den - (q * 2 ^ s : Nat)| ≤
      |(num : ℚ) / den - (k * 2 ^ s : Nat)| := by
    intro k
    rw [abs_div_sub_mul_two_pow num hden, abs_div_sub_mul_two_pow num hden]
    apply mul_le_mul_of_nonneg_right _ hpos.le
    by_cases hsame : k = q
    · rw [hsame]
    · apply hhalf.trans (half_le_abs_sub hhalf hsame)
  constructor
  · apply hprecise
  · intro w hw
    rcases hmultiple w hw with ⟨k, rfl⟩ | hfar
    · apply hnear
    · apply (hnear _).trans hfar.le
  · intro w hw hne htie
    rcases hmultiple w hw with ⟨k, rfl⟩ | hfar
    · have hother : k ≠ q := by
        rintro rfl
        apply hne rfl
      rw [abs_div_sub_mul_two_pow num hden, abs_div_sub_mul_two_pow num hden,
        mul_left_inj' hpos.ne'] at htie
      rw [even_lastBit_iff hbits hfirst]
      apply hodd (le_antisymm hhalf (htie ▸ half_le_abs_sub hhalf hother))
    · cases not_lt.2 (hnear (2 ^ 52)) (htie ▸ hfar)

section

variable {negative : Bool} {num den : Nat} {x : Binary64}

/-- A ratio has a number that it is correctly rounded to if it lies below the bound from which on
numbers overflow, and then it is rounded to that number. -/
theorem rounds_iff (hden : 0 < den) :
  Rounds negative ((num : ℚ) / den / unitsPerOne) x ↔
    (num : ℚ) / den / unitsPerOne < overflow ∧ ofRatio negative num den = x
  := by
  have hnearest := isNearestCount_roundRatio num hden
  rw [← roundRatio_lt_unitLimit_iff hden]
  unfold Rounds
  rw [div_mul_cancel₀ _ units_pos.ne']
  constructor
  · rintro ⟨u, hu, rfl, hcount⟩
    obtain rfl := hcount.unique hnearest
    use hu.1
    rw [ofRatio, dif_pos hu.1]
  · rintro ⟨hlimit, rfl⟩
    rw [ofRatio, dif_pos hlimit]
    use roundRatio num den, roundRatio_fits hlimit

theorem rounds_ofFraction_iff (hden : 0 < den) :
  Rounds false ((num : ℚ) / den) x ↔ (num : ℚ) / den < overflow ∧ ofFraction num den = x
  := by
  have hone := units_pos
  have hfraction : (num : ℚ) / den = ((num * unitsPerOne : ℕ) : ℚ) / den / unitsPerOne := by
    rw [Nat.cast_mul]
    field_simp
  rw [hfraction, rounds_iff hden, ofFraction]

/-- A 64-bit number is rounded as the fraction that it is. -/
theorem rounds_ofInt {n : Nat} (hn : n ≤ 2 ^ 64) :
  Rounds false n (ofInt n)
  := by
  have hsign : decide ((n : Int) < 0) = false := decide_eq_false (by omega)
  rw [← div_one (n : ℚ), ← Nat.cast_one, rounds_ofFraction_iff Nat.one_pos]
  constructor
  · rw [Nat.cast_one, div_one]
    apply cast_lt_overflow hn
  · rw [ofInt, hsign, Int.natAbs_natCast, ofFraction]

/-- There is only one number that a magnitude is correctly rounded to. -/
theorem Rounds.unique {v : ℚ} {x y : Binary64} (hx : Rounds negative v x)
    (hy : Rounds negative v y) :
  x = y
  := by
  obtain ⟨u, hu, rfl, hcount⟩ := hx
  obtain ⟨w, hw, rfl, hcount'⟩ := hy
  obtain rfl := hcount.unique hcount'
  rfl

end

end Binary64

end PerfGate
