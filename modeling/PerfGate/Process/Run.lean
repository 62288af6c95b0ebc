import PerfGate.Processes
import PerfGate.Word

/-!
# Commands run to their end

`Command.run` starts a command, collects its output and waits for its end.  While it
collects, it looks once every millisecond for an interruption, for the deadline and for
output.  A command that is left before its output was closed is killed.
-/

namespace PerfGate

/-- Why the output of a command is no longer collected. -/
inductive Leaving where
  /-- Every process that could write has closed it. -/
  | closed
  /-- It cannot be read. -/
  | unreadable
  /-- The deadline has passed. -/
  | timedOut
  /-- An interruption came in. -/
  | interrupted
deriving DecidableEq

namespace Leaving

/-- Whether the command is killed. -/
def kills : Leaving → Bool
  | .timedOut | .interrupted => true
  | .closed | .unreadable => false

end Leaving

/-- The result of a command. -/
structure Completion where
  /-- The exit code; −1 if it was lost. -/
  exitCode : Int
  /-- What the command wrote. -/
  output : Text
  /-- Whether the command was killed at its deadline. -/
  timedOut : Bool
deriving DecidableEq

/-- The exit code that a reaped command leaves. -/
def Reaped.exitCode : Reaped → Int
  | .ended code => code
  | .running | .lost => -1

namespace Command

variable {m : Type → Type} [Monad m] [Processes m] [Interruption m]

/-- Collects output for at most `left` milliseconds. -/
def collect (pipe : PipeId) : (left : Nat) → (out : Text) → m (Leaving × Text)
  | 0, out => do
    if ← interrupted then pure (.interrupted, out) else pure (.timedOut, out)
  | left + 1, out => do
    if ← interrupted then pure (.interrupted, out)
    else
      match ← listen pipe with
      | .output t => collect pipe left (out ++ t)
      | .silence => collect pipe left out
      | .closed => pure (.closed, out)
      | .failed => pure (.unreadable, out)

/-- Collects the output of a started command and waits for its end. -/
def finish (pid : Pid) (pipe : PipeId) (budgetMs : Int) : m (Leaving × Completion) := do
  let (leaving, output) ← collect pipe (keptMs budgetMs).toNat []
  hangUp pipe
  if leaving.kills then signalGroup pid Signal.kill
  let exitCode := (← await pid).exitCode
  pure (leaving, { exitCode, output, timedOut := leaving == .timedOut })

/-- Runs a command within a time budget. -/
def run [MonadExceptOf Failure m] [Surroundings m] (argv : List Text) (budgetMs : Int)
    (core : Option Int := none) (withErrors : Bool := false) : m Completion := do
  if argv.isEmpty then fail HostError.nothingToRun
  let entries ← Surroundings.environment
  let (pid, pipe) ← ofExcept (fun e => .host (e.error argv []))
    (← startPiped { argv, environment := entries, core } withErrors)
  let (leaving, result) ← finish pid pipe budgetMs
  if leaving == .interrupted then checkInterruption
  pure result

end Command

end PerfGate
