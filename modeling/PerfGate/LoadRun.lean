import PerfGate.LoadScript
import PerfGate.Path
import PerfGate.Process.Run
import PerfGate.Word

/-!
# Load runs

A load generator is any monadic function from a request to the text it writes.  The usual
one writes the script next to its other files and runs a command on it, with a time budget
beyond the duration of the load.
-/

namespace PerfGate

/-- A load generator. -/
abbrev LoadDriver (m : Type → Type) := LoadPlan → m Text

namespace LoadPlan

/-- How much longer than its load a load generator may run, in milliseconds. -/
def overrunMs : Int := 30000

/-- The whole milliseconds of a number of seconds, in a 64-bit word. -/
def wholeMs (seconds : Binary64) : Int :=
  match (seconds * Binary64.ofInt 1000).truncate? with
  | some ms => if inRange64 ms then ms else indefinite64
  | none => indefinite64

/-- The time that a load generator is given, in milliseconds, in a 64-bit word. -/
def budgetMs (r : LoadPlan) : Int := wrap64 (wholeMs r.seconds + overrunMs)

end LoadPlan

/-- What a load run left behind, or its error. -/
def loadOutput (budgetMs : Int) (r : Completion) : Except RoundError Text :=
  if r.timedOut then .error (.loadOverran budgetMs)
  else if r.exitCode != 0 then .error (.loadFailed r.exitCode)
  else .ok r.output

variable {m : Type → Type} [Monad m] [MonadExceptOf Failure m] [Console m] [Files m]
  [Surroundings m] [Processes m] [Interruption m]

/-- Runs a program on the script of a request, which is written to a directory; what the
program writes is shown. -/
def runLoad (program scriptDir : Text) : LoadDriver m := fun r => do
  let script := Path.join scriptDir "wrk.lua".toList
  if !(← writeFile script (LoadScript.render r.body)) then
    fail (HostError.scriptNotWritten script)
  let result ← Command.run (LoadScript.command program script r) r.budgetMs r.core true
  say (Text.untilNul result.output)
  ofExcept .round (loadOutput r.budgetMs result)

end PerfGate
