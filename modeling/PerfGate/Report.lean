import PerfGate.Config
import PerfGate.Verdict

/-!
# Reports

The report of a gate: provenance and settings, one table row for each scenario, the failing
scenarios with their failed checks, and the verdict in the last line.
-/

namespace PerfGate

/-- Where a run came from. -/
structure RunMeta where
  /-- The date for people. -/
  date : Text
  /-- The date for file names. -/
  fileStamp : Text
  /-- The name of the host. -/
  hostname : Text
  /-- The revision of the working copy. -/
  revision : Text
deriving DecidableEq

namespace Report

/-- The last line of the report of a passed gate. -/
def passLine : Text := "PASS: zero-regression contract satisfied.".toList

/-- The last line of the report of a failed gate. -/
def failLine : Text := "FAIL: zero-regression contract violated.".toList

/-- The change from a base in percent; zero from a base of zero. -/
def percentDelta {α : Type} [Scalar α] (base value : α) : α :=
  if Scalar.isZero base then Scalar.ofInt 0 else (value - base) / base * Scalar.ofInt 100

/-- Backquotes around a text. -/
def quoted (t : Text) : Text := '\x60' :: t ++ ['\x60']

/-- An item of a list. -/
def item (name value : Text) : Text := "- ".toList ++ name ++ ": ".toList ++ value

/-- A part of a whole. -/
def outOf (part whole : Int) : Text := Decimal.signed part ++ '/' :: Decimal.signed whole

/-! ### Head -/

/-- The lines on provenance and settings. -/
def head (v : Verdict Binary64) (c : Config) (run : RunMeta) : List Text :=
  let p := c.policy
  [ "# Zero Regression Gate Result".toList,
    [],
    item "Date".toList run.date,
    item "Host".toList run.hostname,
    item "Revision".toList (quoted run.revision),
    item "Baseline".toList (quoted c.baselineFile),
    item "Profile".toList ("single-core ".toList ++ quoted c.shape),
    item "Core pinning".toList
      (if c.autoPinCores then "auto".toList else "explicit pins only".toList),
    item "Rounds planned".toList (Decimal.signed v.plannedRounds),
    item "Rounds executed".toList (Decimal.signed v.roundsExecuted),
    item "Extra rounds allowed".toList (Decimal.signed p.maxExtraRounds),
    item "Round duration".toList (Text.untilNul p.duration),
    item "Jitter threshold (RPS CV)".toList (p.maxVariation.fixed 2 ++ ['%']),
    item "Min passing rounds per scenario".toList
      (outOf v.passesNeeded v.roundsExecuted ++ " (ratio=".toList ++
        p.minPassRatio.fixed 4 ++ [')']),
    item "RSS limit".toList (Decimal.signed p.memoryLimitKb ++ " KB".toList),
    item "Upstream transport".toList
      (c.backendTransport ++
        if c.requireBackendH2 then " (pure h2 required)".toList else []),
    item "Contract priority".toList
      ("p99 (no regression) -> throughput (no regression) -> CPU ".toList ++
        "efficiency (no regression) -> memory cap".toList),
    [] ]

/-! ### Table -/

/-- A table row of cells. -/
def tableRow (cells : List Text) : Text :=
  '|' :: cells.flatMap fun c => ' ' :: c ++ [' ', '|']

/-- The header of the table. -/
def tableHeader : Text :=
  tableRow (["Scenario", "Baseline RPS", "Median RPS", "ΔRPS%", "RPS CV%", "Baseline p99(us)",
    "Median p99(us)", "Δp99%", "Baseline CPU%", "Median CPU%", "ΔCPU%", "Baseline CPU/kRPS",
    "Median CPU/kRPS", "ΔCPU/kRPS%", "Baseline RSS KB", "Median RSS KB", "ΔRSS%",
    "Pass Rounds"].map String.toList)

/-- The line under the header: the first column to the left, the others to the right. -/
def tableRule : Text := "|---".toList ++ (List.replicate 17 "|---:".toList).flatten ++ ['|']

/-- The row of a scenario. -/
def scenarioRow (v : ScenarioFinding Binary64) : Text :=
  let b := v.baseline
  let m := v.median
  let delta (base value : Binary64) : Text := (percentDelta base value).fixed 2 ++ ['%']
  tableRow
    [ quoted (Text.untilNul v.scenario),
      b.rps.fixed 2, m.rps.fixed 2, delta b.rps m.rps,
      v.rpsVariation.fixed 2,
      b.p99.fixed 2, m.p99.fixed 2, delta b.p99 m.p99,
      b.cpu.fixed 2, m.cpu.fixed 2, delta b.cpu m.cpu,
      b.cpuCost.fixed 4, m.cpuCost.fixed 4, delta b.cpuCost m.cpuCost,
      b.rss.fixed 0, m.rss.fixed 0, delta b.rss m.rss,
      outOf v.passRounds v.roundsExecuted ]

/-- The header and the rows, in the order of the scenarios. -/
def table (v : Verdict Binary64) : List Text :=
  tableHeader :: tableRule :: v.scenarios.map scenarioRow

/-! ### Failures -/

/-- The names of the checks that do not hold. -/
def brokenChecks (v : ScenarioFinding Binary64) (required : Int) : List Text :=
  let c := v.checks
  [ (c.throughput, "throughput".toList),
    (c.latency, "p99".toList),
    (c.cpuEfficiency, "cpu/kRPS".toList),
    (c.memory, "memory cap".toList),
    (c.quorum, "quorum ".toList ++ outOf v.passRounds required) ].filterMap
      fun (ok, name) => if ok then none else some name

/-- The line of a failing scenario. -/
def failureLine (required : Int) (v : ScenarioFinding Binary64) : Text :=
  item (quoted v.scenario) (Text.join ", ".toList (brokenChecks v required))

/-- The section on the failing scenarios, if the gate failed. -/
def failures (v : Verdict Binary64) : List Text :=
  if v.pass then []
  else
    [[], "## Failing Scenarios".toList, []] ++
      (v.scenarios.filter (!·.pass)).map (failureLine v.passesNeeded)

/-! ### The whole report -/

/-- The section with the verdict. -/
def conclusion (v : Verdict Binary64) : List Text :=
  [[], "## Verdict".toList, [], if v.pass then passLine else failLine]

/-- The lines of the report. -/
def toLines (v : Verdict Binary64) (c : Config) (run : RunMeta) : List Text :=
  head v c run ++ table v ++ failures v ++ conclusion v

/-- The report. -/
def render (v : Verdict Binary64) (c : Config) (run : RunMeta) : Text :=
  Text.unlines (toLines v c run)

end Report

end PerfGate
