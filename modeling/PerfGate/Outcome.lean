import PerfGate.Path
import PerfGate.Rounds
import PerfGate.Snapshot

/-!
# One gate, one recut

A gate runs the rounds of a source, decides, and writes the report twice: under a name with
the date, and under the name of the latest report.  A recut runs a fixed number of rounds
and writes their medians as a baseline sheet.
-/

namespace PerfGate

variable {m : Type → Type} [Monad m] [MonadExceptOf Failure m] [Console m] [Files m]

/-! ### Reports -/

/-- Where a report was written to. -/
structure ReportFiles where
  /-- The report with the date in its name. -/
  timestamped : Text
  /-- The latest report. -/
  latest : Text
deriving DecidableEq

/-- The places of a report. -/
def ReportFiles.of (outDir stem stamp : Text) : ReportFiles where
  timestamped := Path.join outDir (stem ++ '_' :: stamp ++ ".md".toList)
  latest := Path.join outDir (stem ++ "_latest.md".toList)

omit [Console m] in
/-- Writes a report to both its places. -/
def writeReport (report outDir stem stamp : Text) : m ReportFiles := do
  if let some e ← createDirectories outDir then fail (HostError.directoryNotCreated outDir e)
  let paths := ReportFiles.of outDir stem stamp
  if !(← writeFile paths.timestamped report) then
    fail (HostError.reportNotWritten paths.timestamped)
  if !(← writeFile paths.latest report) then
    fail (HostError.reportNotWritten paths.latest)
  pure paths

/-! ### The gate -/

/-- A decision and where its report is. -/
structure Outcome where
  /-- The decision. -/
  verdict : Verdict Binary64
  /-- The report. -/
  report : ReportFiles
deriving DecidableEq

/-- The exit code of a gate. -/
def Outcome.exitCode (o : Outcome) : Nat := o.verdict.exitCode

/-- Runs the rounds of a source, decides, and writes and shows the report. -/
def gateWith (source : RoundProducer m) (c : Config) (scenarios : List ScenarioName)
    (b : Baseline Binary64) (run : RunMeta) : m Outcome := do
  let verdict ← judgeRounds source scenarios b c.policy
  let report := Report.render verdict c run
  let paths ← writeReport report c.outDir c.reportStem run.fileStamp
  say (Text.untilNul report)
  say ("[gate] report: ".toList ++ Text.untilNul paths.timestamped ++ ['\n'])
  pure { verdict, report := paths }

/-! ### Baseline files -/

omit [Console m] in
/-- The entries of a baseline file for the wanted scenarios. -/
def readBaseline (path : Text) (wanted : List ScenarioName) : m (Baseline Binary64) := do
  if !(← isRegularFile path) then fail (BaselineError.fileNotFound path)
  ofExcept .baseline (Baseline.ofText (← readFile path) wanted)

omit [Console m] in
/-- Writes a sheet to a file; the directories above it are created if they can be. -/
def writeSheet (path : Text) (d : BaselineSheet) : m Unit := do
  if !(Path.parent path).isEmpty then
    let _ ← createDirectories (Path.parent path)
  if !(← writeFile path d.toText) then fail (BaselineError.notWritten path)

/-- Runs the planned rounds of a source and writes their medians to a file. -/
def recutWith (source : RoundProducer m) (c : Config) (scenarios : List ScenarioName)
    (run : RunMeta) (target : Text) : m BaselineSheet := do
  let h ← recordRounds source scenarios c.policy.plannedRounds
  let d := BaselineSheet.snapshot h c run
  writeSheet target d
  say ("[baseline] wrote ".toList ++ Text.untilNul target ++ ['\n'])
  pure d

end PerfGate
