import Mathlib.Algebra.Order.Ring.Rat
import Mathlib.Data.Rat.Floor
import Mathlib.Data.Rat.Sqrt
import PerfGate.Scalar

/-!
# Exact numbers

The rational numbers are scalars that calculate without loss.  The laws of order, median and
quorum are stated for them.
-/

namespace PerfGate

/-- Rational numbers, compared and calculated with exactly.  Few of them have a root among
themselves; the others get an approximation, which the reported variation shows and no finding
depends on. -/
instance : Scalar ℚ where
  ofInt n := n
  le a b := decide (a ≤ b)
  lt a b := decide (a < b)
  isZero a := decide (a = 0)
  sqrt := Rat.sqrt
  ceil? a := some ⌈a⌉

namespace Exact

@[simp] theorem ofInt_eq (n : Int) :
  (Scalar.ofInt n : ℚ) = n
  := rfl

@[simp] theorem le_iff {a b : ℚ} :
  Scalar.le a b = true ↔ a ≤ b
  := decide_eq_true_iff

@[simp] theorem lt_iff {a b : ℚ} :
  Scalar.lt a b = true ↔ a < b
  := decide_eq_true_iff

@[simp] theorem isZero_iff {a : ℚ} :
  Scalar.isZero a = true ↔ a = 0
  := decide_eq_true_iff

end Exact

end PerfGate
