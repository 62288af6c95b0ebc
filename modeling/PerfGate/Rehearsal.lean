import PerfGate.Invocation
import PerfGate.Machine.Host

/-!
# Rehearsals

A rehearsal runs a program on a machine of its own.  A shell script prepares the machine: it
puts the baseline in place and writes the scripts that stand in for the services and the
tools.  The two network ports that the settings name take connections from the beginning.
-/

namespace PerfGate

namespace Rehearsal

/-- The directory that a rehearsal takes place in. -/
def stage : Place := ["root".toList, "rehearsal".toList]

/-- The time that the preparation may take, in milliseconds. -/
def preparationMs : Int := 60000

/-- The network ports that an environment asks for; the usual ones if the settings are refused. -/
def portsOf (entries : List Text) : List Nat :=
  let c := (Config.load (.ofEntries entries) {}).toOption.getD {}
  [portNumber c.proxyPort, portNumber c.backendPort]

/-- The machine before its preparation. -/
def bare (entries : List Text) : Machine :=
  { Machine.base stage with
    environment := entries ++ [Environment.entry "PATH".toList Path.defaultSearch]
    answering := portsOf entries
    catchesInterrupts := true }

/-- Prepares the machine; what the script writes goes to standard error. -/
def prepare (script : Text) : MachineRun Unit := do
  let r ← Command.run ["sh".toList, "-c".toList, script] preparationMs none true
  warn r.output

/-- Runs a program on a prepared machine, and tells its exit code. -/
def rehearse (p : Program) (script : Text) : MachineRun Nat := do
  prepare script
  p.run

/-- What a rehearsal comes to. -/
structure Result where
  /-- The exit code. -/
  exitCode : Nat
  /-- What was written. -/
  output : Text
  /-- What was written to standard error. -/
  errors : Text
deriving DecidableEq

/-- Rehearses a program with the entries of an environment. -/
def perform (p : Program) (entries : List Text) (script : Text) : Result :=
  let (r, m) := (rehearse p script).run (bare entries)
  { exitCode := r.toOption.getD ErrorClass.setup.exitCode, output := m.output, errors := m.errors }

end Rehearsal

end PerfGate
