import PerfGate.Dual.Summary
import PerfGate.Outcome

/-!
# The dual gate

The pinned leg runs first and decides alone; an error in it ends the invocation.  The
unpinned leg is observed: whatever becomes of it is noted in the summary and never raised,
unless the invocation was interrupted.  The run lock is held across both legs.
-/

namespace PerfGate

/-- The outcome of both legs. -/
structure DualResult where
  /-- The outcome of the pinned leg. -/
  pinned : Outcome
  /-- What became of the unpinned leg. -/
  unpinned : Observation
  /-- Where the summary is. -/
  summaryFile : Text
deriving DecidableEq

/-- The exit code, which the pinned leg decides. -/
def DualResult.exitCode (r : DualResult) : Nat := r.pinned.exitCode

namespace DualGate

variable {m : Type → Type} [Monad m] [MonadExceptOf Failure m] [Console m] [Files m]

omit [Console m] in
/-- Copies the latest report of a leg to the name of the leg. -/
def keepReport (o : Outcome) (c : Config) (leg : Text) : m Unit := do
  let target := legReport c.outDir c.reportStem leg
  if let some e ← copyFile o.report.latest target then
    fail (HostError.reportNotPreserved leg target e)

/-- Runs a leg and preserves its report. -/
def runLeg (runner : Config → m Outcome) (c : Config) (leg : Text) : m Outcome := do
  let o ← runner c
  keepReport o c leg
  pure o

/-- The warning that the unpinned leg was given up. -/
def abortWarning : Failure → Text
  | .gate e =>
    "[WARN] unpinned observe gate aborted (".toList ++ e.kind.label ++ " error): ".toList ++
      e.message ++ ['\n']
  | .crash words =>
    "[WARN] unpinned observe gate aborted: ".toList ++ Text.untilNul words ++ ['\n']

/-- Runs the unpinned leg and notes what became of it. -/
def observe [Interruption m] (runner : Config → m Outcome) (d : DualConfig) :
    m Observation := do
  say "[dual-gate] unpinned observe gate start (non-blocking)\n".toList
  try
    let o ← runLeg runner d.unpinnedLeg unpinnedName
    pure (if o.verdict.pass then .passed else .failed)
  catch e : Failure =>
    if ← interrupted then throw e
    warn (abortWarning e)
    pure (.aborted e.message)

/-- The file of the summary. -/
def summaryFile (d : DualConfig) : Text :=
  Path.join d.base.outDir "zero_regression_dual_gate_latest.md".toList

/-- Runs both legs under the lock and writes the summary. -/
def run [Interruption m] [Locks m] (runner : Config → m Outcome) (d : DualConfig)
    (origin : RunMeta) : m DualResult :=
  withLock d.base.lockFile do
    say "[dual-gate] pinned hard gate start\n".toList
    let pinned ← runLeg runner d.pinnedLeg pinnedName
    let unpinned ← if d.skipUnpinned then pure .skipped else observe runner d
    let text := summary d pinned.verdict.pass unpinned origin
    let path := summaryFile d
    if !(← writeFile path text) then fail (HostError.fileNotWritten path)
    say (Text.untilNul text)
    pure { pinned, unpinned, summaryFile := path }

end DualGate

end PerfGate
