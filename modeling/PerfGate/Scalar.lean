import PerfGate.Binary64.Basic

/-!
# Scalars

The numbers that metrics are measured in.  Statistics, scores and verdicts are written once
for every `Scalar`; the program runs them on `Binary64`, and their laws of order and
majority are stated for exact numbers.
-/

namespace PerfGate

/-- What the decision rules ask of a number. -/
class Scalar (α : Type) extends Add α, Sub α, Mul α, Div α where
  /-- The number nearest to an integer. -/
  ofInt : Int → α
  /-- At most. -/
  le : α → α → Bool
  /-- Strictly below. -/
  lt : α → α → Bool
  /-- Whether the number is zero. -/
  isZero : α → Bool
  /-- The square root. -/
  sqrt : α → α
  /-- The least integer that is not below a finite number. -/
  ceil? : α → Option Int

instance : Scalar Binary64 where
  add := Binary64.add
  sub := Binary64.sub
  mul := Binary64.mul
  div := Binary64.div
  ofInt := Binary64.ofInt
  le := Binary64.le
  lt := Binary64.lt
  isZero := Binary64.isZero
  sqrt := Binary64.sqrt
  ceil? := Binary64.ceil?

end PerfGate
