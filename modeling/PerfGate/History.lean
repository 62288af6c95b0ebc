import PerfGate.Error
import PerfGate.Metrics

/-!
# Metric history

The samples and outcomes of each scenario of a fixed set, in round order.  A round is
recorded as a whole or not at all: one that lacks a scenario of the set changes nothing.
-/

namespace PerfGate

/-- One observation. -/
structure Sample (α : Type) where
  /-- The scenario. -/
  scenario : ScenarioName
  /-- The index of the round, from one. -/
  round : Int
  /-- What was measured. -/
  metrics : Metrics α
deriving DecidableEq

/-- What is known about one scenario. -/
structure Track (α : Type) where
  /-- The samples in round order. -/
  samples : List (Sample α) := []
  /-- Whether the rounds passed, in round order. -/
  outcomes : List Bool := []
deriving DecidableEq

namespace Track

variable {α : Type}

/-- The number of rounds that passed. -/
def passTally (t : Track α) : Nat := t.outcomes.count true

/-- One metric across the rounds. -/
def series (t : Track α) (metric : Metrics α → α) : List α :=
  t.samples.map fun s => metric s.metrics

end Track

/-- The samples and outcomes of a run. -/
structure History (α : Type) where
  /-- The set of scenarios, in report order. -/
  scenarios : List ScenarioName
  /-- One track for each scenario. -/
  tracks : Table (Track α)
  /-- The number of recorded rounds. -/
  rounds : Int
deriving DecidableEq

namespace History

variable {α : Type}

/-- A history without rounds. -/
def start (scenarios : List ScenarioName) : History α where
  scenarios
  tracks := scenarios.foldl (fun t s => Table.set s {} t) []
  rounds := 0

/-- The tracks with one more sample of a scenario, if the round has one. -/
def addSample (index : Int) (round : Round α) (tracks : Table (Track α)) (s : ScenarioName) :
    Table (Track α) :=
  match Table.get? s round with
  | none => tracks
  | some metrics =>
    Table.modify s
      (fun t => { t with samples := t.samples ++ [{ scenario := s, round := index, metrics }] })
      tracks

/-- The history with one more round, which needs metrics of every scenario. -/
def record (h : History α) (index : Int) (round : Round α) : Except RoundError (History α) :=
  match h.scenarios.find? fun s => !Table.has s round with
  | some s => .error (.sampleMissing index s)
  | none =>
    .ok { h with tracks := h.scenarios.foldl (addSample index round) h.tracks
                 rounds := h.rounds + 1 }

/-- The history with one more outcome of a scenario. -/
def addOutcome (h : History α) (s : ScenarioName) (pass : Bool) :
    Except RoundError (History α) :=
  if Table.has s h.tracks then
    .ok { h with
      tracks := Table.modify s (fun t => { t with outcomes := t.outcomes ++ [pass] }) h.tracks }
  else .error (.outcomeOfUnknown s)

/-- The track of a scenario; an unknown one has an empty track. -/
def track (h : History α) (s : ScenarioName) : Track α := (Table.get? s h.tracks).getD {}

/-- The track of a scenario of the set. -/
def knownTrack (h : History α) (s : ScenarioName) : Except RoundError (Track α) :=
  match Table.get? s h.tracks with
  | some t => .ok t
  | none => .error (.unknownScenario s)

/-- The number of rounds that passed for a scenario. -/
def passTally (h : History α) (s : ScenarioName) : Nat := (h.track s).passTally

/-- One metric of a scenario across the rounds. -/
def series (h : History α) (s : ScenarioName) (metric : Metrics α → α) : List α :=
  (h.track s).series metric

end History

end PerfGate
