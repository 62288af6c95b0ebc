import PerfGate.Rehearsal

/-!
# The command line

The first argument names a program, the others are settings of the form `NAME=value`.  The
script that prepares the machine is read from standard input.
-/

namespace PerfGate

namespace Program

/-- The program that an argument names. -/
def ofArgument? (name : String) : Option Program :=
  if name = "gate" then some .gate
  else if name = "dual-gate" then some .dualGate
  else if name = "recut" then some .recut
  else none

end Program

/-- What the command line is for. -/
def usage : String := "usage: perfgate gate|dual-gate|recut [NAME=value ...] < preparation.sh\n"

end PerfGate

open PerfGate in
/-- Rehearses the program that the first argument names. -/
def main (args : List String) : IO UInt32 := do
  match args.head?.bind Program.ofArgument? with
  | none =>
    (← IO.getStderr).putStr usage
    return UInt32.ofNat ErrorClass.setup.exitCode
  | some program =>
    let script ← (← IO.getStdin).readToEnd
    let result := Rehearsal.perform program (args.tail.map String.toList) script.toList
    (← IO.getStdout).putStr (String.ofList result.output)
    (← IO.getStderr).putStr (String.ofList result.errors)
    return UInt32.ofNat result.exitCode
