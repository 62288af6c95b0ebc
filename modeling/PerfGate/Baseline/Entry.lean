import PerfGate.Baseline.Sheet
import PerfGate.Binary64.Fixed
import PerfGate.Error
import PerfGate.Latency
import PerfGate.Metrics

/-!
# Entries of a baseline

The numbers in the cells of a row, and the entries of a sheet for given scenarios.  The
last row of a scenario counts; a malformed row of a wanted scenario is an error even if a
later row would replace it.  `SheetRow.ofMetrics` writes a row for measured metrics.
-/

namespace PerfGate

/-- The text without `back` at its end, if it ends so. -/
def withoutEnd (back t : Text) : Text :=
  if Text.endsWith back t then t.take (t.length - back.length) else t

namespace SheetCells

/-- The metrics in the cells, if all four are well formed. -/
def metrics? (c : SheetCells) : Option (Metrics Binary64) := do
  let rps ← Numeral.unsigned? (Text.strip [' ', ','] c.rps)
  let p99 ← Latency.microseconds? c.p99
  let cpu ← Numeral.unsigned? (Text.strip [' ', ',', '%'] c.cpu)
  let rss ← Numeral.unsigned? (withoutEnd ['K', 'B'] (Text.strip [' ', ','] c.rss))
  some { rps, p99, cpu, rss }

/-- The entry of the cells. -/
def entry? (c : SheetCells) : Option (BaselineFigures Binary64) :=
  c.metrics?.map BaselineFigures.ofMetrics

end SheetCells

namespace Baseline

/-- Enters a row, if its scenario is wanted. -/
def enter (wanted : List ScenarioName) (b : Baseline Binary64) (r : SheetRow) :
    Except BaselineError (Baseline Binary64) :=
  let c := r.cells
  if !wanted.contains c.scenario then .ok b
  else
    match c.entry? with
    | some e => .ok (Table.set c.scenario e b)
    | none => .error (.rowMalformed c.scenario c.rps c.p99 c.cpu c.rss)

/-- Fails with the first scenario that has no entry. -/
def requireAll {α : Type} (wanted : List ScenarioName) (b : Baseline α) :
    Except BaselineError Unit :=
  match wanted.find? fun s => !Table.has s b with
  | none => .ok ()
  | some s => .error (.scenarioMissing s)

/-- The entries of a sheet for the wanted scenarios. -/
def ofSheet (d : BaselineSheet) (wanted : List ScenarioName) :
    Except BaselineError (Baseline Binary64) := do
  let b ← d.rows.foldlM (enter wanted) []
  requireAll wanted b
  pure b

/-- The entries of a text for the wanted scenarios. -/
def ofText (t : Text) (wanted : List ScenarioName) : Except BaselineError (Baseline Binary64) :=
  ofSheet (.ofText t) wanted

end Baseline

namespace SheetRow

/-- The longest cell that is written. -/
def cellWidth : Nat := 63

/-- The row of measured metrics: two places for the rate and the percentage, the latency in
milliseconds with two places, the memory in whole kilobytes. -/
def ofMetrics (scenario : ScenarioName) (m : Metrics Binary64) (rounds : Int) : SheetRow where
  cells :=
    { scenario
      rps := (m.rps.fixed 2).take cellWidth
      p99 := ((m.p99 / Scalar.ofInt 1000).fixed 2 ++ ['m', 's']).take cellWidth
      avgLatency := "n/a".toList
      cpu := (m.cpu.fixed 2 ++ ['%']).take cellWidth
      rss := (m.rss.fixed 0 ++ ['K', 'B']).take cellWidth
      notes := "median of ".toList ++ Decimal.signed rounds ++ " rounds".toList }

end SheetRow

end PerfGate
