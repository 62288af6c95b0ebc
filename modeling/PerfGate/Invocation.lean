import PerfGate.Live

/-!
# Invocations

The three programs: the gate, the dual gate and the recut.  Each takes its settings from the
environment and nothing else, and tells its outcome by its exit code.  An error is one line
on standard error.
-/

namespace PerfGate

/-- The programs. -/
inductive Program where
  | gate
  | dualGate
  | recut
deriving DecidableEq

namespace Program

/-- The name of a program in messages. -/
def label : Program → Text
  | .gate => "gate".toList
  | .dualGate => "dual gate".toList
  | .recut => "baseline recut".toList

/-- The line on an error that ended a program. -/
def abortLine (p : Program) : Failure → Text
  | .gate e =>
    "[ERROR] ".toList ++ p.label ++ " aborted (".toList ++ e.kind.label ++ " error): ".toList ++
      e.message ++ ['\n']
  | .crash words =>
    "[ERROR] ".toList ++ p.label ++ " aborted: ".toList ++ Text.untilNul words ++ ['\n']

/-- The exit code of a program that ended with an error. -/
def abortCode : Failure → Nat
  | .gate e => e.kind.exitCode
  | .crash _ => ErrorClass.setup.exitCode

/-- Where a recut writes: to the file of its own variable, or else over the baseline. -/
def recutTarget (env : Environment) (c : Config) : Text :=
  (env.value? "OUT_FILE".toList).getD c.baselineFile

variable {m : Type → Type} [Monad m] [MonadExceptOf Failure m] [Host m]

/-- Runs a program on its environment, and tells its exit code. -/
def body (p : Program) (env : Environment) : m Nat :=
  match p with
  | .gate => do
    let c ← ofExcept .setting (Config.load env {})
    pure (← Live.gate c).exitCode
  | .dualGate => do
    let d ← ofExcept .setting (DualConfig.load env)
    pure (← Live.dualGate d).exitCode
  | .recut => do
    let c ← ofExcept .setting (Config.load env {})
    let _ ← Live.recut c (recutTarget env c)
    pure passCode

/-- Runs a program to its exit code, whatever happens. -/
def run (p : Program) : m Nat := do
  try p.body (.ofEntries (← environment))
  catch e : Failure =>
    warn (p.abortLine e)
    pure (abortCode e)

end Program

end PerfGate
