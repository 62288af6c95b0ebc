import PerfGate.History
import PerfGate.Policy
import PerfGate.Stats
import PerfGate.Word

/-!
# Scores, quorum and verdict

A round passes for a scenario if its rate is at least that of the baseline, its p99 latency
and its processor cost per thousand requests at most those of the baseline, and its memory
within the limit.  The verdict makes the same four comparisons with the medians over all
rounds, and asks for a quorum of passing rounds besides.
-/

namespace PerfGate

variable {α : Type} [Scalar α]

/-! ### Rounds -/

/-- Whether the metrics of a round hold against the baseline. -/
def roundPasses (round : Metrics α) (base : BaselineFigures α) (memoryLimitKb : Int) : Bool :=
  Scalar.le base.rps round.rps && Scalar.le round.p99 base.p99 &&
    Scalar.le (cpuCost round.cpu round.rps) base.cpuCost &&
    Scalar.le round.rss (Scalar.ofInt memoryLimitKb)

/-- The excess that the quorum forgives, a thousandth of a round: the ratio is given with
four places, so that 0.7778 of nine rounds are seven. -/
def ratioSlack : α := Scalar.ofInt 1 / Scalar.ofInt 1000

/-- The number of rounds that the ratio asks for; a number outside the 32-bit range asks for
none. -/
def roundsOfRatio (executed : Int) (ratio : α) : Int :=
  match Scalar.ceil? (Scalar.ofInt executed * ratio - ratioSlack) with
  | some k => if 0 ≤ k && inRange32 k then k else 0
  | none => 0

/-- The quorum: what the ratio asks for, or the given least number if that is more. -/
def quorum (executed : Int) (ratio : α) (least : Option Int) : Int :=
  let k := roundsOfRatio executed ratio
  match least with
  | some n => if k < n then n else k
  | none => k

/-! ### Extension -/

/-- Whether the request rate of some scenario varies more than allowed. -/
def isNoisy (h : History α) (maxVariation : α) : Bool :=
  h.scenarios.any fun s => Scalar.lt maxVariation (Stats.variation (h.series s (·.rps)))

omit [Scalar α] in
/-- The number of rounds that extension can lead to, in 32-bit arithmetic. -/
def Policy.maxRounds (p : Policy α) : Int := wrap32 (p.plannedRounds + p.maxExtraRounds)

/-- Whether a run goes on for one more round: the last one of its target is done, the target
can still grow, and the rate varies too much. -/
def goesOn (round target : Int) (p : Policy α) (h : History α) : Bool :=
  round == target && target < p.maxRounds && isNoisy h p.maxVariation

/-! ### Verdict -/

/-- The medians of a scenario; the processor cost is that of the median time and the median
rate. -/
abbrev Medians (α : Type) := BaselineFigures α

/-- The outcomes of the four comparisons and of the quorum. -/
structure Checks where
  /-- The rate has not gone down. -/
  throughput : Bool
  /-- The p99 latency has not gone up. -/
  latency : Bool
  /-- The processor cost has not gone up. -/
  cpuEfficiency : Bool
  /-- The memory is within the limit. -/
  memory : Bool
  /-- Enough rounds passed. -/
  quorum : Bool
deriving DecidableEq

/-- Whether all checks hold. -/
def Checks.all (c : Checks) : Bool :=
  c.throughput && c.latency && c.cpuEfficiency && c.memory && c.quorum

/-- The decision for one scenario. -/
structure ScenarioFinding (α : Type) where
  /-- The scenario. -/
  scenario : ScenarioName
  /-- What it was held against. -/
  baseline : BaselineFigures α
  /-- The medians over all rounds. -/
  median : Medians α
  /-- The variation of the rate in percent. -/
  rpsVariation : α
  /-- The number of rounds that passed. -/
  passRounds : Int
  /-- The number of rounds. -/
  roundsExecuted : Int
  /-- The outcomes of the checks. -/
  checks : Checks
  /-- The decision. -/
  pass : Bool
deriving DecidableEq

/-- The decision of a gate. -/
structure Verdict (α : Type) where
  /-- The decisions for the scenarios, in their order. -/
  scenarios : List (ScenarioFinding α)
  /-- The number of rounds planned. -/
  plannedRounds : Int
  /-- The number of rounds. -/
  roundsExecuted : Int
  /-- The quorum. -/
  passesNeeded : Int
  /-- The decision: all scenarios pass. -/
  pass : Bool
deriving DecidableEq

omit [Scalar α] in
/-- The exit code of a decision. -/
def Verdict.exitCode (v : Verdict α) : Nat := if v.pass then passCode else regressionCode

namespace History

/-- The medians of a scenario. -/
def medians (h : History α) (s : ScenarioName) : Medians α :=
  .ofMetrics
    { rps := Stats.median (h.series s (·.rps))
      p99 := Stats.median (h.series s (·.p99))
      cpu := Stats.median (h.series s (·.cpu))
      rss := Stats.median (h.series s (·.rss)) }

end History

/-- The checks of medians against a baseline. -/
def Checks.ofMedians (m : Medians α) (base : BaselineFigures α) (memoryLimitKb : Int)
    (quorum : Bool) : Checks where
  throughput := Scalar.le base.rps m.rps
  latency := Scalar.le m.p99 base.p99
  cpuEfficiency := Scalar.le m.cpuCost base.cpuCost
  memory := Scalar.le m.rss (Scalar.ofInt memoryLimitKb)
  quorum

/-- The decision for one scenario. -/
def scenarioFinding (h : History α) (p : Policy α) (required : Int) (s : ScenarioName)
    (base : BaselineFigures α) : ScenarioFinding α :=
  let median := h.medians s
  let passRounds : Int := h.passTally s
  let checks := Checks.ofMedians median base p.memoryLimitKb (required ≤ passRounds)
  { scenario := s, baseline := base, median
    rpsVariation := Stats.variation (h.series s (·.rps))
    passRounds, roundsExecuted := h.rounds, checks, pass := checks.all }

/-- The decision over a history; every scenario needs a baseline. -/
def finalVerdict (h : History α) (b : Baseline α) (p : Policy α) :
    Except BaselineError (Verdict α) := do
  let required := PerfGate.quorum h.rounds p.minPassRatio p.minPassRounds
  let scenarios ← h.scenarios.mapM fun s =>
    match Table.get? s b with
    | some base => .ok (scenarioFinding h p required s base)
    | none => .error (.scenarioMissing s)
  pure
    { scenarios, plannedRounds := p.plannedRounds, roundsExecuted := h.rounds
      passesNeeded := required, pass := scenarios.all (·.pass) }

end PerfGate
