import PerfGate.Environment
import PerfGate.Processes
import PerfGate.Waiting

/-!
# Owners of processes

An owner holds at most one child, which leads a process group.  A child that has ended is
reaped by the next look at it and is no longer held.  Terminating the child asks its group to
end, and after a time of grace kills it; whatever the group has left is killed behind the
child.
-/

namespace PerfGate

/-- An owner of at most one child. -/
structure Owner where
  /-- The child that is held. -/
  child : Option Pid := none
  /-- The exit code of the last child that was reaped. -/
  exitCode : Int := -1
deriving DecidableEq

/-- What a child is started with. -/
structure Service where
  /-- The program and its arguments. -/
  argv : List Text
  /-- Variables that differ from those of the invocation. -/
  overrides : List (Text × Text) := []
  /-- Where its output goes; empty for nowhere. -/
  log : Text := []
  /-- The core it is bound to. -/
  core : Option Int := none
deriving DecidableEq

namespace Owner

/-- The device that swallows what is written to it. -/
def nowhere : Text := "/dev/null".toList

/-- The time between two looks at a child, in milliseconds. -/
def lookEveryMs : Nat := 20

/-- The time of grace before a child is killed, in milliseconds. -/
def graceMs : Int := 2000

/-- The owner after its child was looked at. -/
def settle (o : Owner) : Reaped → Owner
  | .running => o
  | .ended code => { child := none, exitCode := code }
  | .lost => { o with child := none }

/-- The line that says that a child is about to be killed. -/
def killWarning (pid : Pid) : Text :=
  "[WARN] pid ".toList ++ Decimal.signed pid ++ " ignored SIGTERM, sending SIGKILL\n".toList

variable {m : Type → Type} [Monad m]

/-- Starts a child. -/
def start [MonadExceptOf Failure m] [Surroundings m] [Processes m] (s : Service) : m Owner := do
  if s.argv.isEmpty then fail HostError.nothingToSpawn
  let entries := Environment.override (← environment) s.overrides
  let log := if s.log.isEmpty then nowhere else s.log
  let pid ← ofExcept (fun e => .host (e.error s.argv log))
    (← startLogged { argv := s.argv, environment := entries, core := s.core } log)
  pure { child := some pid }

variable [Processes m]

/-- Looks whether the child has ended, and reaps it then. -/
def look (o : Owner) : m Owner := do
  match o.child with
  | none => pure o
  | some pid => pure (o.settle (← reap pid))

/-- Whether a child is held that has not ended. -/
def running (o : Owner) : m (Bool × Owner) := do
  let o ← o.look
  pure (o.child.isSome, o)

/-- Waits for the end of the child, with `sleeps` sleeps between the looks. -/
def waitLoop [MonadExceptOf Failure m] [Clock m] [Interruption m] :
    (sleeps : Nat) → Owner → m (Option Int × Owner)
  | 0, o => do
    let o ← o.look
    pure (if o.child.isNone then some o.exitCode else none, o)
  | sleeps + 1, o => do
    let o ← o.look
    if o.child.isNone then pure (some o.exitCode, o)
    else
      checkInterruption
      sleep lookEveryMs
      waitLoop sleeps o

/-- Waits until the child has ended or the timeout has passed, and tells the exit code. -/
def awaitEnd [MonadExceptOf Failure m] [Clock m] [Interruption m] (o : Owner)
    (timeoutMs : Int) : m (Option Int × Owner) :=
  waitLoop (sleepsUntil lookEveryMs timeoutMs) o

/-- Waits for the end of a child that was asked to end; it is killed when no sleep is left. -/
def graceLoop [Clock m] [Console m] (group : Pid) : (sleeps : Nat) → Owner → m Owner
  | 0, o => do
    let o ← o.look
    if o.child.isNone then pure o
    else
      warn (killWarning group)
      signalGroup group Signal.kill
      pure (o.settle (← await group))
  | sleeps + 1, o => do
    let o ← o.look
    if o.child.isNone then pure o
    else
      sleep lookEveryMs
      graceLoop group sleeps o

/-- Ends the child and its group. -/
def terminate [Clock m] [Console m] (o : Owner) (grace : Int := graceMs) : m Owner := do
  match o.child with
  | none => pure o
  | some group =>
    signalGroup group Signal.terminate
    let o ← graceLoop group (sleepsUntil lookEveryMs grace) o
    signalGroup group Signal.kill
    pure o

/-- Hands the child of one owner to another, whose own child is ended first.  The first part
is the owner handed from. -/
def moveTo [Clock m] [Console m] (source target : Owner) : m (Owner × Owner) := do
  let _ ← target.terminate
  pure ({ source with child := none }, source)

/-- Runs `body` with a child, which is ended behind it. -/
def hold [MonadExceptOf Failure m] [Surroundings m] [Clock m] [Console m] {α : Type}
    (s : Service) (body : Owner → m α) : m α := do
  let o ← start s
  ensuring (body o) (discard o.terminate)

end Owner

end PerfGate
