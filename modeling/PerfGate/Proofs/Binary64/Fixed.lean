import Mathlib.Algebra.Order.Field.Rat
import Mathlib.Algebra.Ring.Parity
import Mathlib.Tactic.FieldSimp
import Mathlib.Tactic.Linarith
import PerfGate.Binary64.Fixed
import PerfGate.Proofs.Numeral

/-!
# Fixed places

What is written of a number with a fixed number of places is the nearest count of steps
(`isNearest_roundQuotient`), as digits with a point between them (`withPoint_eq_written`).
-/

namespace PerfGate

/-! ### The nearest count -/

/-- Whether a count of steps of `10 ^ -places` is nearest to a number; of two equally near counts it
is the even one. -/
structure IsNearest (places : Nat) (v : ℚ) (k : Nat) : Prop where
  /-- The count is half a step away at most. -/
  near : |v * 10 ^ places - k| ≤ 1 / 2
  /-- At exactly half a step it is even. -/
  even : |v * 10 ^ places - k| = 1 / 2 → Even k

namespace Binary64

/-- A quotient is rounded to a nearest whole number, and from the middle to the even one. -/
theorem abs_div_sub_roundQuotient (num : Nat) {den : Nat} (hden : 0 < den) :
  |(num : ℚ) / den - roundQuotient num den| ≤ 1 / 2
    ∧ (|(num : ℚ) / den - roundQuotient num den| = 1 / 2 → Even (roundQuotient num den))
  := by
  have hpos : (0 : ℚ) < den := by exact_mod_cast hden
  have hmod : num % den < den := Nat.mod_lt num hden
  have hsplit : (num : ℚ) / den = (num / den : Nat) + (num % den : Nat) / (den : ℚ) := by
    have hdivmod : ((den * (num / den) + num % den : Nat) : ℚ) = num := by
      rw [Nat.div_add_mod]
    rw [← hdivmod]
    push_cast
    field_simp
  have hnonneg : (0 : ℚ) ≤ (num % den : Nat) / (den : ℚ) := by
    apply div_nonneg _ hpos.le
    apply Nat.cast_nonneg
  rw [hsplit]
  unfold roundQuotient
  dsimp only
  generalize num / den = q
  generalize num % den = r at *
  split
  · -- the whole number below is nearer
    have hless : (r : ℚ) / den < 1 / 2 := by
      rw [div_lt_div_iff₀ hpos (by norm_num)]
      norm_cast
      omega
    rw [add_sub_cancel_left, abs_of_nonneg hnonneg]
    use hless.le
    intro hhalf
    rw [hhalf] at hless
    cases lt_irrefl _ hless
  · split
    · -- the whole number above is nearer
      have hmore : 1 / 2 < (r : ℚ) / den := by
        rw [div_lt_div_iff₀ (by norm_num) hpos]
        norm_cast
        omega
      have hone : (r : ℚ) / den ≤ 1 := by
        rw [div_le_one₀ hpos]
        norm_cast
        omega
      push_cast
      rw [add_sub_add_left_eq_sub, abs_of_nonpos (by linarith)]
      use by linarith
      intro hhalf
      linarith
    · have hhalf : (r : ℚ) / den = 1 / 2 := by
        rw [div_eq_div_iff hpos.ne' (by norm_num)]
        norm_cast
        omega
      rw [hhalf]
      split
      · rename_i heven
        rw [add_sub_cancel_left, abs_of_pos (by norm_num)]
        use le_rfl
        intro _
        apply Nat.even_iff.2 heven
      · rename_i hodd
        push_cast
        rw [add_sub_add_left_eq_sub, abs_of_neg (by norm_num)]
        use by norm_num
        intro _
        apply Nat.even_iff.2
        omega

/-- A ratio is written as the nearest count of steps. -/
theorem isNearest_roundQuotient (places num : Nat) {den : Nat} (hden : 0 < den) :
  IsNearest places (num / den) (roundQuotient (num * Nat.pow 10 places) den)
  := by
  have hscale : (num : ℚ) / den * 10 ^ places = (num * Nat.pow 10 places : Nat) / den := by
    rw [Nat.cast_mul, div_mul_eq_mul_div]
    norm_cast
  obtain ⟨hnear, heven⟩ := abs_div_sub_roundQuotient (num * Nat.pow 10 places) hden
  constructor
  · rw [hscale]
    apply hnear
  · rw [hscale]
    apply heven

end Binary64

/-- A count nearest to a number below a power of ten has few digits. -/
theorem IsNearest.le {places n k : Nat} {v : ℚ} (h : IsNearest places v k) (hv : v < 10 ^ n) :
  k ≤ 10 ^ (n + places)
  := by
  have hstep : (0 : ℚ) < 10 ^ places := by positivity
  have hscale : v * 10 ^ places < 10 ^ (n + places) := by
    rw [pow_add]
    apply mul_lt_mul_of_pos_right hv hstep
  have hnear := (abs_le.1 h.near).1
  have hless : (k : ℚ) < (10 ^ (n + places) + 1 : Nat) := by
    push_cast
    linarith
  rw [Nat.cast_lt] at hless
  omega

/-! ### Digits with a point -/

namespace Binary64

/-- The digits behind the point of a count of steps. -/
def behindPoint (places k : Nat) : Text :=
  if places = 0 then [] else Decimal.padded places (k % Nat.pow 10 places)

section

variable (places k : Nat)

theorem withPoint_eq_written :
  withPoint places k =
    Numeral.written (Decimal.digits (k / Nat.pow 10 places)) (behindPoint places k)
  := by
  unfold withPoint behindPoint
  split
  · rename_i hnone
    rw [hnone, Numeral.written_nil]
    show _ = Decimal.digits (k / 1)
    rw [Nat.div_one]
  · rw [Numeral.written_of_ne_nil]
    apply List.append_ne_nil_of_right_ne_nil
    apply Decimal.digits_ne_nil

theorem length_behindPoint : (behindPoint places k).length = places := by
  unfold behindPoint
  split
  · symm
    assumption
  · obtain ⟨w, rfl⟩ : ∃ w, places = w + 1 := ⟨places - 1, by omega⟩
    apply Decimal.length_padded
    apply Nat.mod_lt
    apply Nat.pow_pos
    decide

theorem isDigits_behindPoint : (behindPoint places k).IsDigits := by
  unfold behindPoint
  split
  · rintro c ⟨⟩
  · apply Decimal.isDigits_padded

/-- Without the point the digits are those of the count. -/
theorem value_digits_behindPoint :
  Decimal.value (Decimal.digits (k / Nat.pow 10 places) ++ behindPoint places k) = k
  := by
  have hdivmod : k / 10 ^ places * 10 ^ places + k % 10 ^ places = k := Nat.div_add_mod' _ _
  rw [Decimal.value_append, Decimal.value_digits, length_behindPoint]
  unfold behindPoint
  split
  · rename_i hnone
    rw [hnone] at hdivmod ⊢
    rw [Nat.pow_zero, Nat.mod_one] at hdivmod
    apply hdivmod
  · rw [Decimal.value_padded]
    apply hdivmod

end

/-- A count of steps has few characters if it is small. -/
theorem length_withPoint_le {places k n : Nat} (h : k ≤ 10 ^ (n + places)) :
  (withPoint places k).length ≤ n + places + 2
  := by
  have hwhole : k / Nat.pow 10 places < 10 ^ (n + 1) := by
    have hpos : 0 < 10 ^ places := Nat.pow_pos (by omega)
    show k / 10 ^ places < 10 ^ (n + 1)
    rw [Nat.div_lt_iff_lt_mul hpos]
    calc k
      _ ≤ 10 ^ (n + places) := h
      _ = 10 ^ n * 10 ^ places := Nat.pow_add 10 n places
      _ < 10 ^ (n + 1) * 10 ^ places := by
        apply Nat.mul_lt_mul_of_pos_right _ hpos
        apply Nat.pow_lt_pow_right <;> omega
  have hdigits := Decimal.length_digits_le hwhole
  have hbehind := length_behindPoint places k
  rw [withPoint_eq_written]
  unfold Numeral.written
  split
  · omega
  · rw [List.length_append, List.length_cons, hbehind]
    omega

/-- The places are read up to what is no digit. -/
theorem unsignedLength_withPoint_append {places k : Nat} (hplaces : places ≠ 0) {rest : Text}
    (hrest : ∀ c, rest.head? = some c → Text.isDigit c = false) :
  Numeral.unsignedLength (withPoint places k ++ rest) = (withPoint places k).length
  := by
  have hbehind : behindPoint places k ≠ [] := by
    rw [← List.length_pos_iff, length_behindPoint]
    omega
  rw [withPoint_eq_written]
  apply Numeral.unsignedLength_append (Decimal.digits_ne_nil _) (Decimal.isDigits_digits _)
    hbehind (isDigits_behindPoint _ _) hrest

theorem mem_withPoint {places k : Nat} {c : Char} (h : c ∈ withPoint places k) :
  Text.isDigit c = true ∨ c = '.'
  := by
  rw [withPoint_eq_written] at h
  apply Numeral.mem_written (Decimal.isDigits_digits _) (isDigits_behindPoint _ _) h

end Binary64

end PerfGate
