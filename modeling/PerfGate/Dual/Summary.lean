import PerfGate.Dual.Config
import PerfGate.Path
import PerfGate.Report

/-!
# Summary of the dual gate

The state of the observed leg, and the short document that sums up both legs.  It gives the
report of the unpinned leg as an output only if that leg came to a decision.
-/

namespace PerfGate

/-- What became of the unpinned leg. -/
inductive Observation where
  | skipped
  | passed
  | failed
  /-- It ended with an error. -/
  | aborted (message : Text)
deriving DecidableEq

namespace DualGate

/-- The report that a leg is left with. -/
def legReport (outDir stem leg : Text) : Text :=
  Path.join outDir (stem ++ '_' :: leg ++ "_latest.md".toList)

/-- The name of the pinned leg. -/
def pinnedName : Text := "pinned".toList

/-- The name of the unpinned leg. -/
def unpinnedName : Text := "unpinned".toList

/-- The lines on the unpinned leg. -/
def observedLines (d : DualConfig) : Observation → List Text
  | .skipped => [Report.item "Unpinned output".toList "skipped".toList]
  | .passed => [output, verdict "PASS (observe)".toList]
  | .failed => [output, verdict "FAIL (observe-only, non-blocking)".toList]
  | .aborted message =>
    [ verdict "ERROR (observe-only, non-blocking)".toList,
      Report.item "Unpinned error".toList message ]
where
  /-- The line that names the report. -/
  output : Text :=
    Report.item "Unpinned output".toList
      (Report.quoted (legReport d.base.outDir d.base.reportStem unpinnedName))
  /-- The line of the decision. -/
  verdict (words : Text) : Text := Report.item "Unpinned verdict".toList words

/-- The lines of the summary. -/
def summaryLines (d : DualConfig) (pinnedPass : Bool) (unpinned : Observation)
    (run : RunMeta) : List Text :=
  let plan (rounds : Int) (duration : Text) := Decimal.signed rounds ++ " / ".toList ++ duration
  [ "# Dual Perf Gate".toList,
    [],
    Report.item "Date".toList run.date,
    Report.item "Pinned baseline".toList (Report.quoted d.pinnedBaselineFile),
    Report.item "Unpinned baseline".toList (Report.quoted d.unpinnedBaselineFile),
    Report.item "Pinned rounds/duration".toList (plan d.pinnedRounds d.pinnedDuration),
    Report.item "Unpinned rounds/duration".toList (plan d.unpinnedRounds d.unpinnedDuration),
    Report.item "Pinned output".toList
      (Report.quoted (legReport d.base.outDir d.base.reportStem pinnedName)),
    Report.item "Pinned verdict".toList
      (if pinnedPass then "PASS (blocking)".toList else "FAIL (blocking)".toList) ] ++
    observedLines d unpinned ++
  [ [],
    "## Contract".toList,
    [],
    "- Pinned gate is blocking.".toList,
    "- Unpinned gate is observational and never blocks merge.".toList ]

/-- The summary. -/
def summary (d : DualConfig) (pinnedPass : Bool) (unpinned : Observation) (run : RunMeta) :
    Text :=
  Text.unlines (summaryLines d pinnedPass unpinned run)

end DualGate

end PerfGate
