import PerfGate.Scalar

/-!
# Resource sampling

A sampler takes readings of a process: one when it starts, one at each poll, and a last one
when it stops.  Processor time goes from the first reading to the last one that is not
zero, and memory is the largest reading; readings that fail change nothing.
-/

namespace PerfGate

/-- The processor time of an interval in percent of one core: `start` and `stop` are clock
ticks, `tickRate` is how many ticks a second has.  An interval without ticks or without
length has none. -/
def cpuShare (start stop : Nat) (tickRate : Int) (wallSeconds : Binary64) : Binary64 :=
  if stop ≤ start || tickRate ≤ 0 || wallSeconds.le (.zero false) then .zero false
  else
    Binary64.ofInt (stop - start : Nat) / Binary64.ofInt tickRate * Binary64.ofInt 100 /
      wallSeconds

/-- One reading of a process. -/
structure Reading where
  /-- Clock ticks used so far. -/
  ticks : Option Nat
  /-- Peak resident memory in kilobytes. -/
  rssKb : Option Int
deriving DecidableEq

/-- What the readings say so far. -/
structure Readings where
  /-- The ticks of the first reading. -/
  startTicks : Nat := 0
  /-- The last ticks that are not zero. -/
  lastTicks : Nat := 0
  /-- The largest memory reading. -/
  peakRssKb : Int := 0
deriving DecidableEq

namespace Readings

/-- What the first reading says. -/
def first (r : Reading) : Readings :=
  let ticks := r.ticks.getD 0
  { startTicks := ticks, lastTicks := ticks, peakRssKb := r.rssKb.getD 0 }

/-- What is known after one more reading. -/
def take (s : Readings) (r : Reading) : Readings :=
  { s with
    lastTicks := match r.ticks with
      | some t => if 0 < t then t else s.lastTicks
      | none => s.lastTicks
    peakRssKb := match r.rssKb with
      | some kb => max s.peakRssKb kb
      | none => s.peakRssKb }

end Readings

/-- What a process used over an interval. -/
structure Usage where
  /-- Processor time in percent of one core. -/
  cpu : Binary64
  /-- Peak resident memory in kilobytes. -/
  rssKb : Int
deriving DecidableEq

/-- A sampler: its readings, whether it polls, and its result once it was stopped. -/
structure Sampler where
  /-- What the readings say so far. -/
  readings : Readings := {}
  /-- Whether it was started. -/
  running : Bool := false
  /-- The result, fixed by the first stop. -/
  result : Option Usage := none
deriving DecidableEq

namespace Sampler

/-- Starts with a first reading; without effect when running or stopped. -/
def start (s : Sampler) (r : Reading) : Sampler :=
  if s.running || s.result.isSome then s
  else { s with readings := .first r, running := true }

/-- Takes a reading while running. -/
def poll (s : Sampler) (r : Reading) : Sampler :=
  if s.running then { s with readings := s.readings.take r } else s

/-- Stops with a last reading.  Only the first stop decides the result. -/
def stop (s : Sampler) (r : Reading) (tickRate : Int) (wallSeconds : Binary64) :
    Usage × Sampler :=
  match s.result with
  | some u => (u, s)
  | none =>
    let readings := s.readings.take r
    let u : Usage :=
      { cpu := cpuShare readings.startTicks readings.lastTicks tickRate wallSeconds
        rssKb := readings.peakRssKb }
    (u, { readings, running := false, result := some u })

end Sampler

end PerfGate
