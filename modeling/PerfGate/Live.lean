import PerfGate.Calendar
import PerfGate.Dual.Legs
import PerfGate.Measure
import PerfGate.Path.Search

/-!
# Live runs

A live run measures real services.  It holds the run lock, asks for its programs, and has a
private directory and the configuration of the service under test for as long as it lasts.
-/

namespace PerfGate

namespace Live

variable {m : Type → Type} [Monad m] [MonadExceptOf Failure m] [Host m]

/-! ### Provenance -/

/-- The revision of a working copy that is none. -/
def unknownRevision : Text := "unknown".toList

/-- The time that the query of the revision may take, in milliseconds. -/
def revisionBudgetMs : Int := 5000

/-- The revision in the result of the query. -/
def revisionIn (r : Completion) : Text :=
  let revision := Text.trim r.output
  if r.exitCode != 0 || revision.isEmpty then unknownRevision else revision

/-- The revision of the working copy. -/
def findRevision : m Text := do
  if (← locate? "git".toList).isNone then pure unknownRevision
  else
    let query := ["git", "describe", "--always", "--dirty", "--tags"].map String.toList
    pure (revisionIn (← Command.run query revisionBudgetMs))

/-- The provenance of a run that starts now. -/
def captureOrigin : m RunMeta := do
  let moment := Moment.ofSeconds (← wallClock)
  let hostname ← hostName
  pure { date := moment.shown, fileStamp := moment.stamp, hostname, revision := ← findRevision }

/-! ### Preparation -/

/-- Asks for the programs of a run. -/
def requirePrograms (c : Config) : m Unit := do
  demandProgram c.subjectBin "subject binary".toList
  demandProgram c.simulatorBin "mock upstream binary".toList
  demandProgram c.wrkBin "wrk".toList
  demandProgram c.curlBin "curl".toList

/-- The line that shows the cores in force. -/
def pinLine (c : Config) (pins : CoreChoice) : Text :=
  let shown (core : Option Int) : Text := (core.map Decimal.signed).getD "none".toList
  "[gate] auto_pin_cores=".toList ++ Config.flagDigit c.autoPinCores ++
    " pin_proxy_core=".toList ++ shown pins.subject ++
    " pin_upstream_core=".toList ++ shown pins.backend ++
    " pin_wrk_core=".toList ++ shown pins.loadGenerator ++ ['\n']

/-- The cores in force, which are shown. -/
def chooseCores (c : Config) : m CoreChoice := do
  let pins := c.coresInForce (← processors)
  say (pinLine c pins)
  pure pins

/-- The start of the name of the private directory. -/
def workDirName : Text := "quorum_gate".toList

/-- Runs `body` with the rounds of real services. -/
def withBench {α : Type} (c : Config) (scenarios : List Scenario) (pins : CoreChoice)
    (body : RoundProducer m → m α) : m α :=
  withTempDirectory workDirName fun workDir =>
    KeptFile.guarding c.subjectConfig workDir fun subjectConfig =>
      body (Bench.measureRound
        { config := c, scenarios, pins, subjectConfig, workDir, load := runLoad c.wrkBin workDir })

/-! ### Gates -/

/-- Runs a gate while the lock is held. -/
def gateUnderLock (c : Config) : m Outcome := do
  say c.shown
  let scenarios := Scenario.all c.includeAliasRemap
  let ids := scenarios.map (·.id)
  requirePrograms c
  let baseline ← readBaseline c.baselineFile ids
  let pins ← chooseCores c
  let origin ← captureOrigin
  withBench c scenarios pins fun source => gateWith source c ids baseline origin

/-- Runs a gate. -/
def gate (c : Config) : m Outcome := withLock c.lockFile (gateUnderLock c)

/-- Records a baseline. -/
def recut (c : Config) (target : Text) : m BaselineSheet :=
  withLock c.lockFile do
    say c.shown
    let scenarios := Scenario.all c.includeAliasRemap
    requirePrograms c
    let pins ← chooseCores c
    let origin ← captureOrigin
    withBench c scenarios pins fun source =>
      recutWith source c (scenarios.map (·.id)) origin target

/-- Runs both legs of a dual gate. -/
def dualGate (d : DualConfig) : m DualResult := do
  let origin ← captureOrigin
  DualGate.run gateUnderLock d origin

end Live

end PerfGate
