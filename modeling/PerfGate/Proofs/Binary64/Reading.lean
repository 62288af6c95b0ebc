import PerfGate.Proofs.Binary64.Nearest

/-!
# What a numeral is read as

A numeral has an exact magnitude, whatever its exponent.  It is read if that magnitude is in range,
and then as the number that it is correctly rounded to (`Numeral.toBinary64?_eq_some_iff`).  In
range are the magnitudes that do not overflow and that lose nothing below the normal numbers; zero
and all that lies between the least and the greatest normal number is in range
(`inRange_of_isNormal`).
-/

namespace PerfGate

namespace Binary64

/-! ### The range -/

/-- The bound up to which a number is below the normal ones: the middle between the least normal
number and the number with 53 significant bits in front of it. -/
def underflow : ℚ := (2 ^ 54 - 1) / 2 ^ 1076

/-- Whether a magnitude is that of a number that can be read: it does not overflow, and below the
normal numbers it is a whole count of units. -/
def InRange (v : ℚ) : Prop :=
  v < overflow ∧ (underflow ≤ v ∨ ∃ u : Nat, v * unitsPerOne = u)

/-- Whether a magnitude lies between the least and the greatest normal number. -/
def IsNormal (v : ℚ) : Prop := 1 / 2 ^ 1022 ≤ v ∧ v ≤ (2 ^ 53 - 1) * 2 ^ 971

theorem inRange_zero : InRange 0 := by
  constructor
  · rw [← Nat.cast_zero]
    apply cast_lt_overflow (Nat.zero_le _)
  · right
    use 0
    rw [zero_mul, Nat.cast_zero]

theorem inRange_of_isNormal {v : ℚ} (h : IsNormal v) :
  InRange v
  := by
  obtain ⟨hlow, hhigh⟩ := h
  constructor
  · have hpow : (2 : ℚ) ^ 971 = 2 * 2 ^ 970 := pow_succ' 2 970
    have hpos : (0 : ℚ) < 2 ^ 970 := by positivity
    rw [overflow_eq]
    rw [hpow] at hhigh
    generalize (2 : ℚ) ^ 970 = x at hhigh hpos ⊢
    linarith
  · left
    apply le_trans _ hlow
    have hpow : (2 : ℚ) ^ 1076 = 2 ^ 54 * 2 ^ 1022 := by rw [← pow_add]
    have hpos : (0 : ℚ) < 2 ^ 1022 := by positivity
    rw [underflow, hpow, div_le_div_iff₀ (by positivity) hpos]
    generalize (2 : ℚ) ^ 1022 = x at hpos ⊢
    linarith

theorem units_eq : (unitsPerOne : ℚ) = 2 ^ 1074 := by
  have hcast : ∀ n, ((Nat.pow 2 n : ℕ) : ℚ) = 2 ^ n := by
    intro n
    rw [Nat.pow_eq, Nat.cast_pow, Nat.cast_ofNat]
  apply hcast

/-- Whatever is far beyond the finite numbers is out of range. -/
theorem not_inRange_of_large {v : ℚ} (h : 2 ^ 1400 ≤ v) :
  ¬InRange v
  := by
  rintro ⟨hless, -⟩
  have hpow : (2 : ℚ) ^ 1024 ≤ 2 ^ 1400 := pow_le_pow_right₀ (by norm_num) (by norm_num)
  have hpos : (0 : ℚ) < 2 ^ 970 := by positivity
  apply lt_irrefl v
  calc v
    _ < 2 ^ 1024 - 2 ^ 970 := hless
    _ ≤ 2 ^ 1024 := sub_le_self _ hpos.le
    _ ≤ v := hpow.trans h

/-- Whatever is far below one unit is out of range, unless it is zero. -/
theorem not_inRange_of_small {v : ℚ} (hpos : 0 < v) (h : v < 1 / 2 ^ 1400) :
  ¬InRange v
  := by
  rintro ⟨-, hmore | ⟨u, hu⟩⟩
  · have hpow : (2 : ℚ) ^ 1076 ≤ 2 ^ 1400 := pow_le_pow_right₀ (by norm_num) (by norm_num)
    have hless : (1 : ℚ) / 2 ^ 1400 ≤ 1 / 2 ^ 1076 :=
      one_div_le_one_div_of_le (by positivity) hpow
    have hunder : (1 : ℚ) / 2 ^ 1076 ≤ underflow :=
      div_le_div_of_nonneg_right (by norm_num) (by positivity)
    cases lt_irrefl v (h.trans_le (hless.trans (hunder.trans hmore)))
  · -- no whole number is between zero and one
    have hpow : (2 : ℚ) ^ 1074 ≤ 2 ^ 1400 := pow_le_pow_right₀ (by norm_num) (by norm_num)
    have hone : v * unitsPerOne < 1 := by
      rw [units_eq]
      apply (mul_le_mul_of_nonneg_left hpow hpos.le).trans_lt
      apply (lt_div_iff₀ (by positivity)).1 h
    have hsome : 0 < v * unitsPerOne := mul_pos hpos units_pos
    rw [hu, Nat.cast_lt_one] at hone
    rw [hu, hone, Nat.cast_zero] at hsome
    cases lt_irrefl _ hsome

/-! ### Ratios -/

theorem isTiny_iff {num den : Nat} (hden : 0 < den) :
  isTiny num den = true ↔ (num : ℚ) / den / unitsPerOne < underflow
  := by
  have hden' : (0 : ℚ) < den := by exact_mod_cast hden
  have hpow : (2 : ℚ) ^ 1076 = 4 * 2 ^ 1074 := by
    rw [show (4 : ℚ) = 2 ^ 2 by norm_num, ← pow_add]
  have hbits : ((Nat.pow 2 54 - 1 : ℕ) : ℚ) = 2 ^ 54 - 1 := by norm_num
  have hone := units_pos
  rw [isTiny, decide_eq_true_iff, ← Nat.cast_lt (α := ℚ), Nat.cast_mul, Nat.cast_mul, hbits,
    underflow, hpow, ← units_eq, div_div,
    div_lt_div_iff₀ (mul_pos hden' hone) (mul_pos (by norm_num) hone)]
  generalize (unitsPerOne : ℚ) = one at hone ⊢
  have hgoal : (num : ℚ) * (4 * one) < (2 ^ 54 - 1) * (den * one)
      ↔ 4 * (num : ℚ) * one < (2 ^ 54 - 1) * den * one := by
    constructor
    · intro
      linarith
    · intro
      linarith
  rw [hgoal, mul_lt_mul_iff_left₀ hone, Nat.cast_ofNat]

theorem mod_eq_zero_iff {num den : Nat} (hden : 0 < den) :
  num % den = 0 ↔ ∃ u : Nat, (num : ℚ) / den / unitsPerOne * unitsPerOne = u
  := by
  have hden' : (den : ℚ) ≠ 0 := by exact_mod_cast hden.ne'
  rw [div_mul_cancel₀ _ units_pos.ne']
  constructor
  · intro hmod
    obtain ⟨u, rfl⟩ := Nat.dvd_of_mod_eq_zero hmod
    use u
    rw [Nat.cast_mul, mul_div_cancel_left₀ _ hden']
  · rintro ⟨u, hu⟩
    rw [div_eq_iff hden'] at hu
    have hwhole : num = u * den := by exact_mod_cast hu
    rw [hwhole, Nat.mul_mod_left]

theorem isFinite_ofRatio_iff {negative : Bool} {num den : Nat} (hden : 0 < den) :
  (ofRatio negative num den).isFinite = true ↔ (num : ℚ) / den / unitsPerOne < overflow
  := by
  rw [← roundRatio_lt_unitLimit_iff hden]
  unfold ofRatio
  split
  · rename_i hlimit
    simp [isFinite, hlimit]
  · rename_i hlimit
    simp [isFinite, hlimit]

namespace Numeral

/-! ### Magnitudes -/

/-- The exact magnitude of a numeral. -/
def magnitude (n : Numeral) : ℚ := n.mantissa * (n.base : ℚ) ^ n.power

/-- The magnitude with the power held to its span. -/
def heldMagnitude (n : Numeral) : ℚ := n.mantissa * (n.base : ℚ) ^ n.heldPower

/-- Whether a numeral has no more digits than it was written with. -/
structure IsBounded (n : Numeral) : Prop where
  /-- The base is two or more. -/
  base : 2 ≤ n.base
  /-- The mantissa fits in its digits. -/
  mantissa : n.mantissa < n.base ^ n.width

section

variable {n : Numeral}

theorem IsBounded.base_pos (h : n.IsBounded) :
  0 < n.base
  := Nat.lt_of_lt_of_le (by decide) h.base

/-- A numeral is read as a ratio of units. -/
theorem heldMagnitude_eq (h : n.IsBounded) :
  n.heldMagnitude = (n.ratio.1 : ℚ) / n.ratio.2 / unitsPerOne
  := by
  have hbase : (n.base : ℚ) ≠ 0 := by exact_mod_cast h.base_pos.ne'
  have hone := units_pos
  have hsplit : (n.heldPower.toNat : Int) - ((-n.heldPower).toNat : Int) = n.heldPower := by omega
  have hpower : (n.base : ℚ) ^ n.heldPower =
      (n.base : ℚ) ^ n.heldPower.toNat / (n.base : ℚ) ^ (-n.heldPower).toNat := by
    rw [← zpow_natCast, ← zpow_natCast, ← zpow_sub₀ hbase, hsplit]
  unfold heldMagnitude ratio
  dsimp only
  rw [hpower, Nat.pow_eq, Nat.pow_eq, Nat.cast_mul, Nat.cast_mul, Nat.cast_pow, Nat.cast_pow]
  field_simp

theorem ratio_pos (h : n.IsBounded) :
  0 < n.ratio.2
  := Nat.pow_pos h.base_pos

theorem not_inRange_of_le_power (h : n.IsBounded) (hpos : 0 < n.mantissa) {p : Int}
    (hp : 1400 ≤ p) :
  ¬InRange (n.mantissa * (n.base : ℚ) ^ p)
  := by
  have hmantissa : (1 : ℚ) ≤ n.mantissa := by exact_mod_cast hpos
  have hbase : (2 : ℚ) ≤ n.base := by exact_mod_cast h.base
  have hone : (1 : ℚ) ≤ n.base := one_le_two.trans hbase
  apply not_inRange_of_large
  calc (2 : ℚ) ^ 1400
    _ ≤ (n.base : ℚ) ^ 1400 := pow_le_pow_left₀ (by norm_num) hbase 1400
    _ = (n.base : ℚ) ^ (1400 : Int) := (zpow_natCast _ 1400).symm
    _ ≤ (n.base : ℚ) ^ p := zpow_le_zpow_right₀ hone hp
    _ ≤ n.mantissa * (n.base : ℚ) ^ p :=
      le_mul_of_one_le_left (zpow_nonneg (by linarith) p) hmantissa

theorem not_inRange_of_power_le (h : n.IsBounded) (hpos : 0 < n.mantissa) {p : Int}
    (hp : p ≤ -(n.width + 1400 : Nat)) :
  ¬InRange (n.mantissa * (n.base : ℚ) ^ p)
  := by
  have hmantissa : (0 : ℚ) < n.mantissa := by exact_mod_cast hpos
  have hdigits : (n.mantissa : ℚ) < (n.base : ℚ) ^ n.width := by exact_mod_cast h.mantissa
  have hbase : (2 : ℚ) ≤ n.base := by exact_mod_cast h.base
  have hone : (1 : ℚ) ≤ n.base := one_le_two.trans hbase
  have hbase' : (0 : ℚ) < n.base := one_pos.trans_le hone
  apply not_inRange_of_small (mul_pos hmantissa (zpow_pos hbase' p))
  calc n.mantissa * (n.base : ℚ) ^ p
    _ ≤ n.mantissa * (n.base : ℚ) ^ (-(n.width + 1400 : Nat) : Int) :=
      mul_le_mul_of_nonneg_left (zpow_le_zpow_right₀ hone hp) hmantissa.le
    _ < (n.base : ℚ) ^ n.width * (n.base : ℚ) ^ (-(n.width + 1400 : Nat) : Int) :=
      mul_lt_mul_of_pos_right hdigits (zpow_pos hbase' _)
    _ = 1 / (n.base : ℚ) ^ 1400 := by
      rw [zpow_neg, zpow_natCast, pow_add]
      field_simp
    _ ≤ 1 / 2 ^ 1400 :=
      one_div_le_one_div_of_le (by positivity) (pow_le_pow_left₀ (by norm_num) hbase 1400)

/-- Holding the power to its span changes no magnitude that is in range. -/
theorem heldMagnitude_eq_or (h : n.IsBounded) :
  n.heldMagnitude = n.magnitude ∨ ¬InRange n.heldMagnitude ∧ ¬InRange n.magnitude
  := by
  have hheld : n.heldPower = max (-(n.width + 1400 : Nat) : Int) (min 1400 n.power) := rfl
  unfold heldMagnitude magnitude
  rcases Nat.eq_zero_or_pos n.mantissa with hzero | hpos
  · left
    rw [hzero, Nat.cast_zero, zero_mul, zero_mul]
  · by_cases hhigh : 1400 < n.power
    · right
      exact ⟨not_inRange_of_le_power h hpos (by omega), not_inRange_of_le_power h hpos (by omega)⟩
    · by_cases hlow : n.power < -(n.width + 1400 : Nat)
      · right
        exact ⟨not_inRange_of_power_le h hpos (by omega), not_inRange_of_power_le h hpos (by omega)⟩
      · left
        have hsame : n.heldPower = n.power := by omega
        rw [hsame]

/-- A numeral is read if and only if its magnitude is in range, and then as the number that the
magnitude is correctly rounded to. -/
theorem toBinary64?_eq_some_iff (h : n.IsBounded) {x : Binary64} :
  n.toBinary64? = some x ↔ InRange n.magnitude ∧ Rounds n.negative n.magnitude x
  := by
  have hheld : n.toBinary64? = some x ↔
      InRange n.heldMagnitude ∧ Rounds n.negative n.heldMagnitude x := by
    have hden := ratio_pos h
    rw [heldMagnitude_eq h, rounds_iff hden, InRange, ← mod_eq_zero_iff hden, ← not_lt,
      ← isTiny_iff hden]
    unfold toBinary64?
    dsimp only
    split
    · rename_i hlost
      rw [Bool.and_eq_true, bne_iff_ne] at hlost
      constructor
      · intro hnone
        cases hnone
      · rintro ⟨⟨-, hlarge | hwhole⟩, -⟩
        · cases hlarge hlost.1
        · cases hlost.2 hwhole
    · rename_i hkept
      rw [Bool.and_eq_true, bne_iff_ne, not_and_or, not_not] at hkept
      split
      · rename_i hfinite
        rw [isFinite_ofRatio_iff hden] at hfinite
        simp only [hkept, hfinite, Option.some.injEq, true_and]
      · rename_i hinfinite
        rw [isFinite_ofRatio_iff hden] at hinfinite
        constructor
        · intro hnone
          cases hnone
        · rintro ⟨⟨hless, -⟩, -⟩
          cases hinfinite hless
  rw [hheld]
  rcases heldMagnitude_eq_or h with heq | ⟨hout, hout'⟩
  · rw [heq]
  · simp [hout, hout']

end

/-! ### Numerals in text -/

theorem isDigits_of_takeMantissa? {t whole places rest : Text}
    (h : takeMantissa? Text.isDigit t = some (whole, places, rest)) :
  whole.IsDigits ∧ places.IsDigits
  := by
  have hnone : Text.IsDigits [] := fun c hc => by cases hc
  unfold takeMantissa? at h
  dsimp only at h
  split at h
  · split at h
    · cases h
    · cases h
      exact ⟨PerfGate.Numeral.isDigits_takeWhile _, PerfGate.Numeral.isDigits_takeWhile _⟩
  · split at h
    · cases h
    · cases h
      exact ⟨PerfGate.Numeral.isDigits_takeWhile _, hnone⟩

theorem hexValue_lt (c : Char) :
  (hexValue? c).getD 0 < 16
  := by
  unfold hexValue?
  simp only [Bool.and_eq_true, decide_eq_true_eq, Char.le_def, UInt32.le_iff_toNat_le]
  have hval : c.toNat = c.val.toNat := rfl
  have hnine : '9'.val.toNat = 57 := rfl
  have hlow : 'f'.val.toNat = 102 := rfl
  have hhigh : 'F'.val.toNat = 70 := rfl
  split
  · dsimp only [Option.getD_some]
    omega
  · split
    · dsimp only [Option.getD_some]
      omega
    · split
      · dsimp only [Option.getD_some]
        omega
      · decide

theorem hexNumber_lt (ds : Text) :
  hexNumber ds < 16 ^ ds.length
  := by
  induction ds using List.reverseRecOn with
  | nil => decide
  | append_singleton ds c ih =>
    have hvalue := hexValue_lt c
    have hsplit : hexNumber (ds ++ [c]) = 16 * hexNumber ds + (hexValue? c).getD 0 := by
      simp [hexNumber]
    rw [hsplit, List.length_append, List.length_singleton, Nat.pow_succ]
    omega

theorem isBounded_of_decimal {negative : Bool} {t : Text} {n : Numeral}
    (h : ofText?.decimal negative t = some n) :
  n.IsBounded
  := by
  obtain ⟨⟨whole, places, rest⟩, hmantissa, h⟩ := Option.bind_eq_some_iff.1 h
  obtain ⟨power, -, h⟩ := Option.bind_eq_some_iff.1 h
  obtain rfl := Option.some.inj h
  obtain ⟨hwhole, hplaces⟩ := isDigits_of_takeMantissa? hmantissa
  constructor
  · show 2 ≤ 10
    decide
  · apply Decimal.value_lt (hwhole.append hplaces)

/-- A numeral of a text has no more digits than it was written with. -/
theorem isBounded_of_ofText? {t : Text} {n : Numeral} (h : ofText? t = some n) :
  n.IsBounded
  := by
  unfold ofText? at h
  split at h
  · split at h
    · obtain ⟨⟨whole, places, rest⟩, -, h⟩ := Option.bind_eq_some_iff.1 h
      obtain ⟨power, -, h⟩ := Option.bind_eq_some_iff.1 h
      obtain rfl := Option.some.inj h
      constructor
      · apply Nat.le_refl
      · dsimp only
        rw [Nat.pow_mul]
        apply hexNumber_lt
    · apply isBounded_of_decimal h
  · apply isBounded_of_decimal h

end Numeral

/-- A text is read as a number if it is a numeral with a magnitude in range, and then as the number
that the magnitude is correctly rounded to. -/
theorem ofNumeral?_eq_some_iff {t : Text} {x : Binary64} :
  ofNumeral? t = some x ↔
    ∃ n, Numeral.ofText? t = some n ∧ InRange n.magnitude ∧ Rounds n.negative n.magnitude x
  := by
  rw [ofNumeral?, Option.bind_eq_some_iff]
  constructor
  · rintro ⟨n, hn, hx⟩
    use n, hn
    apply (Numeral.toBinary64?_eq_some_iff (Numeral.isBounded_of_ofText? hn)).1 hx
  · rintro ⟨n, hn, hx⟩
    use n, hn
    apply (Numeral.toBinary64?_eq_some_iff (Numeral.isBounded_of_ofText? hn)).2 hx

end Binary64

end PerfGate
