import PerfGate.Scalar
import PerfGate.Text

/-!
# Policy

The parameters of a decision, loaded once and the same for a whole run.
-/

namespace PerfGate

/-- The decision parameters. -/
structure Policy (α : Type) where
  /-- Rounds run before any extension. -/
  plannedRounds : Int
  /-- The fraction of rounds that have to pass. -/
  minPassRatio : α
  /-- A least number of passing rounds; it raises the quorum and never lowers it. -/
  minPassRounds : Option Int
  /-- The largest variation of the request rate, in percent, that needs no extension. -/
  maxVariation : α
  /-- The most extra rounds that variation can cause. -/
  maxExtraRounds : Int
  /-- The length of the load run of each scenario. -/
  duration : Text
  /-- The ceiling of peak resident memory, in kilobytes. -/
  memoryLimitKb : Int
deriving DecidableEq

end PerfGate
