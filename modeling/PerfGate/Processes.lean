import PerfGate.Host
import PerfGate.Process.Table
import PerfGate.Sampler
import PerfGate.Signal

/-!
# Processes

What the gate asks of the machine about processes.  A command is started as the leader of a
process group of its own, with its output either in a log or in a pipe.  Its end is learnt
by reaping it.
-/

namespace PerfGate

/-- A command to start. -/
structure Command where
  /-- The program and its arguments. -/
  argv : List Text
  /-- The entries of its environment. -/
  environment : List Text
  /-- The core it is bound to. -/
  core : Option Int := none
deriving DecidableEq

/-- Why a command was not started. -/
inductive StartRefusal where
  /-- Its log cannot be opened. -/
  | logNotOpened (why : Errno)
  /-- There is no pipe for its output. -/
  | pipeFailed (why : Errno)
  /-- There is no process for it. -/
  | forkFailed (why : Errno)
deriving DecidableEq

/-- The error of a command that was not started. -/
def StartRefusal.error (argv : List Text) (log : Text) : StartRefusal → HostError
  | .logNotOpened e => .logNotOpened log e
  | .pipeFailed e => .pipeFailed e
  | .forkFailed e => .forkFailed argv e

/-- The number of a pipe. -/
abbrev PipeId := Nat

/-- What came out of a pipe. -/
inductive Heard where
  /-- Output. -/
  | output (t : Text)
  /-- Nothing so far. -/
  | silence
  /-- Nothing, and nothing more will: no process can write to the pipe. -/
  | closed
  /-- The pipe cannot be read. -/
  | failed
deriving DecidableEq

/-- What a look at a child tells. -/
inductive Reaped where
  | running
  /-- It has ended with an exit code. -/
  | ended (code : Int)
  /-- It has ended, and its exit code is lost. -/
  | lost
deriving DecidableEq

/-- The processes of the machine. -/
class Processes (m : Type → Type) where
  /-- Starts a command with its output in a file, which is emptied first. -/
  startLogged : Command → (log : Text) → m (Except StartRefusal Pid)
  /-- Starts a command with its output in a pipe, and with its errors there too or nowhere. -/
  startPiped : Command → (withErrors : Bool) → m (Except StartRefusal (Pid × PipeId))
  /-- What comes out of a pipe within a millisecond. -/
  listen : PipeId → m Heard
  /-- Stops reading from a pipe. -/
  hangUp : PipeId → m Unit
  /-- Sends a signal to a process group. -/
  signalGroup : Pid → Signal → m Unit
  /-- Looks whether a child has ended, without waiting. -/
  reap : Pid → m Reaped
  /-- Waits for the end of a child. -/
  await : Pid → m Reaped

/-- Observation of processes. -/
class Monitor (m : Type → Type) where
  /-- The processes there are. -/
  processTree : m ProcessTable
  /-- A reading of a process. -/
  readProcess : Pid → m Reading
  /-- Starts to take readings of a process at an interval; false if that cannot be done
  beside the invocation. -/
  startReadings : Pid → (intervalMs : Nat) → m Bool
  /-- Stops that, and tells the readings taken. -/
  stopReadings : m (List Reading)

/-- All that an invocation asks of its machine. -/
class Host (m : Type → Type) extends Console m, Files m, Locks m, Interruption m, Clock m,
  Surroundings m, Network m, Processes m, Monitor m

export Processes (startLogged startPiped listen hangUp signalGroup reap await)
export Monitor (processTree readProcess startReadings stopReadings)

end PerfGate
