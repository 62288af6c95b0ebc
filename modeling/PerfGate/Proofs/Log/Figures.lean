import PerfGate.Proofs.Baseline.Cells
import PerfGate.Proofs.Binary64.Rounding

/-!
# Figures that are read back

The figures of a round log are numbers with two places and whole numbers.  Unlike the cells of a
recut they are never cut off as long as the numbers are not astronomical, and each of them is then
read back: a number without a sign as the nearest number of hundredths, a whole number as itself.
-/

namespace PerfGate

namespace Binary64

/-! ### Hundredths -/

theorem ten_pow_le_two_pow {n : Nat} (hn : n ≤ 102) :
  10 ^ n ≤ 2 ^ 400
  := by
  calc 10 ^ n
    _ ≤ 10 ^ 102 := Nat.pow_le_pow_right (by omega) hn
    _ ≤ 2 ^ 400 := by decide +kernel

/-- A number below a power of ten has less than a hundred times as many hundredths. -/
theorem stepsAt_two_le {u n : Nat} (h : u < 10 ^ n * unitsPerOne) :
  stepsAt 2 u ≤ 10 ^ (n + 2)
  := by
  apply roundQuotient_le_of_le_mul unitsPerOne_pos
  generalize unitsPerOne = one at h
  show u * 10 ^ 2 ≤ _
  calc u * 10 ^ 2
    _ ≤ 10 ^ n * one * 10 ^ 2 := Nat.mul_le_mul_right _ h.le
    _ = 10 ^ (n + 2) * one := by rw [Nat.pow_add, Nat.mul_right_comm]

theorem isFinite_ofFraction {k d : Nat} (hk : k ≤ 2 ^ 400) (hd : 0 < d) :
  (ofFraction k d).isFinite = true
  := by
  obtain ⟨top, hprecision, hlimit, hscale⟩ : ∃ top, HasPrecision top ∧ top < unitLimit
      ∧ 2 ^ 400 * unitsPerOne = top :=
    ⟨_, hasPrecision_two_pow _, by decide +kernel, two_pow_mul_unitsPerOne 400⟩
  obtain ⟨u, hu, heq, -⟩ : Within top (ofFraction k d) := by
    apply within_ofRatio hprecision hlimit hd
    calc k * unitsPerOne
      _ ≤ 2 ^ 400 * unitsPerOne := Nat.mul_le_mul_right _ hk
      _ = top := hscale
      _ ≤ top * d := Nat.le_mul_of_pos_right _ hd
  rw [heq]
  rfl

/-- No hundredth or larger part but none at all is below the normal numbers. -/
theorem not_isTiny_fraction (k : Nat) {d : Nat} (hd : d ≤ 100) :
  (isTiny (k * unitsPerOne) d && k * unitsPerOne % d != 0) = false
  := by
  rcases Nat.eq_zero_or_pos k with rfl | hk
  · simp
  · have htiny : isTiny (k * unitsPerOne) d = false := by
      have hone : (Nat.pow 2 54 - 1) * 100 ≤ 4 * unitsPerOne := by decide +kernel
      have hmul : 4 * unitsPerOne ≤ 4 * (k * unitsPerOne) := by
        apply Nat.mul_le_mul_left
        apply Nat.le_mul_of_pos_left _ hk
      have hless : (Nat.pow 2 54 - 1) * d ≤ (Nat.pow 2 54 - 1) * 100 :=
        Nat.mul_le_mul_left _ hd
      apply decide_eq_false
      omega
    rw [htiny, Bool.false_and]

end Binary64

open Binary64

namespace Numeral

/-- Steps of at least a hundredth are read back as their exact count, rounded once. -/
theorem unsigned?_withPoint {places k : Nat} (hplaces : places ≤ 2) (hk : k ≤ 2 ^ 400) :
  unsigned? (withPoint places k) = some (ofFraction k (10 ^ places))
  := by
  have hsteps : 10 ^ places ≤ 100 := Nat.pow_le_pow_right (by omega) hplaces
  rw [withPoint_eq_written, unsigned?_written (Decimal.digits_ne_nil _)
    (Decimal.isDigits_digits _) (isDigits_behindPoint _ _),
    ofNumeral?_written (Decimal.digits_ne_nil _) (Decimal.isDigits_digits _)
    (isDigits_behindPoint _ _), value_digits_behindPoint, length_behindPoint]
  dsimp only
  rw [not_isTiny_fraction k hsteps, isFinite_ofFraction hk (Nat.pow_pos (by omega))]
  rfl

/-- A number without a sign that is written with two places is read back. -/
theorem unsigned?_fixed_two {u n : Nat} (hu : FitsBinary64 u) (hn : n ≤ 100)
    (h : u < 10 ^ n * unitsPerOne) :
  unsigned? ((Binary64.finite false u hu).fixed 2) =
    some (SheetRow.nearestHundredth (.finite false u hu))
  := by
  rw [SheetRow.fixed_two]
  apply unsigned?_withPoint le_rfl
  apply (stepsAt_two_le h).trans (ten_pow_le_two_pow _)
  omega

/-- A number below a power of ten has no more digits in front of the point than the power. -/
theorem length_fixed_two_le {s : Bool} {u n : Nat} (hu : FitsBinary64 u)
    (h : u < 10 ^ n * unitsPerOne) :
  ((Binary64.finite s u hu).fixed 2).length ≤ (signMark s).length + (n + 4)
  := by
  have hlength := length_withPoint_le (stepsAt_two_le h)
  rw [Binary64.fixed, List.length_append]
  omega

end Numeral

end PerfGate
