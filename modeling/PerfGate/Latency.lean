import PerfGate.Numeral

/-!
# Latencies and durations

`Latency.microseconds?` reads a latency with its unit, `Duration.seconds?` the length of a
load run.  Both scale an exact numeral by the factor of its unit.
-/

namespace PerfGate

namespace Latency

/-- How many microseconds a unit is. -/
def unitFactor? (unit : Text) : Option Binary64 :=
  if unit == "ns".toList then some (.ofFraction 1 1000)
  else if unit == "us".toList then some (.ofInt 1)
  else if unit == "ms".toList then some (.ofInt 1000)
  else if unit == "s".toList then some (.ofInt 1000000)
  else none

/-- The latency in microseconds.  Spaces, tabs and the case of letters do not matter. -/
def microseconds? (t : Text) : Option Binary64 := do
  let s := Text.lower (Text.strip [' ', '\t'] t)
  let n := Numeral.unsignedLength s
  if n = 0 then none
  else
    let factor ← unitFactor? (s.drop n)
    let value ← Numeral.unsigned? (s.take n)
    some (value.mul factor)

end Latency

namespace Duration

/-- The number of seconds that the last letter of a duration stands for, and the numeral in
front of it; without such a letter the numeral counts seconds. -/
def splitUnit (t : Text) : Text × Int :=
  match t.getLast? with
  | some 's' => (t.dropLast, 1)
  | some 'm' => (t.dropLast, 60)
  | some 'h' => (t.dropLast, 3600)
  | _ => (t, 1)

/-- The duration in seconds; it has to be above zero. -/
def seconds? (t : Text) : Option Binary64 := do
  let (number, scale) := splitUnit (Text.lower t.trim)
  let value ← Numeral.float? number
  if value.le (.zero false) then none else some (value.mul (.ofInt scale))

end Duration

end PerfGate
