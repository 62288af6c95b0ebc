import PerfGate.Proofs.Recut
import PerfGate.Proofs.Rounds.Contract
import PerfGate.Proofs.Verdict.Judged

/-!
# The contract of a recut

What a recut does for every behaviour of its source: which calls it makes, what ends it, what it
returns, and what it leaves on its disk.  Every scenario list is allowed: one that names a
scenario several times makes each round count as often in the medians of that scenario
(`roundsFor`).  The file that a recut replaces is touched when all rounds are there, and not
before.
-/

namespace PerfGate

section

variable {α : Type} {scenarios : List ScenarioName} {s : ScenarioName}

/-! ### The sheet of rounds -/

/-- The rounds as they count for a scenario: each of them as often as the scenario is listed. -/
def roundsFor (scenarios : List ScenarioName) (s : ScenarioName) (rounds : List (Round α)) :
    List (Round α) :=
  rounds.flatMap (List.replicate (scenarios.count s))

theorem roundsFor_concat (rounds : List (Round α)) (round : Round α) :
  roundsFor scenarios s (rounds ++ [round]) =
    roundsFor scenarios s rounds ++ List.replicate (scenarios.count s) round
  := by
  simp [roundsFor]

/-- If no scenario is listed twice, each round counts once. -/
theorem roundsFor_eq_self (hnodup : scenarios.Nodup) (hs : s ∈ scenarios)
    (rounds : List (Round α)) :
  roundsFor scenarios s rounds = rounds
  := by
  rw [roundsFor, List.count_eq_one_of_mem hnodup hs]
  apply List.flatMap_singleton'

/-- The sheet of rounds: a row with the medians of each scenario over them. -/
def BaselineSheet.ofRounds (c : Config) (run : RunMeta) (scenarios : List ScenarioName)
    (rounds : List (Round Binary64)) : BaselineSheet where
  preamble := snapshotHead rounds.length c run
  rows := scenarios.map fun s =>
    SheetRow.ofMetrics s (mediansOver s (roundsFor scenarios s rounds)).toMetrics rounds.length

/-- If no scenario is listed twice, each row has the medians over all the rounds. -/
theorem BaselineSheet.rows_ofRounds (c : Config) (run : RunMeta) (hnodup : scenarios.Nodup)
    (rounds : List (Round Binary64)) :
  (ofRounds c run scenarios rounds).rows =
    scenarios.map fun s => SheetRow.ofMetrics s (mediansOver s rounds).toMetrics rounds.length
  := by
  apply List.map_congr_left
  intro s hs
  rw [roundsFor_eq_self hnodup hs]

/-! ### The history of rounds -/

/-- Whether a history of scenarios comes of recording rounds. -/
structure Gathered (scenarios : List ScenarioName) (rounds : List (Round α)) (h : History α) :
    Prop where
  /-- The scenarios are those of the history. -/
  scenarios_eq : h.scenarios = scenarios
  /-- Each round is counted. -/
  rounds_eq : h.rounds = rounds.length
  /-- Each scenario has a track. -/
  covers : Covers h.tracks scenarios
  /-- Each scenario has its metrics of the rounds that count for it. -/
  metricsOf_eq : ∀ s ∈ scenarios,
    h.metricsOf s = (roundsFor scenarios s rounds).filterMap (Table.get? s)

variable {rounds : List (Round α)} {h : History α}

/-- A round that covers the scenarios is recorded with those before it. -/
theorem Gathered.record (hh : Gathered scenarios rounds h) (index : Int) {round : Round α}
    (hround : Covers round scenarios) :
  ∃ h', h.record index round = .ok h' ∧ Gathered scenarios (rounds ++ [round]) h'
  := by
  obtain rfl := hh.scenarios_eq
  obtain ⟨h', hrecord, hscenarios, hrounds, hsamples⟩ :=
    History.exists_record hh.covers index hround
  use h', hrecord
  constructor
  · apply hscenarios
  · rw [hrounds, hh.rounds_eq, List.length_append, List.length_singleton]
    rfl
  · intro s hs
    obtain ⟨m, -, hhas, -⟩ := hsamples s hs
    apply hhas
  · intro s hs
    obtain ⟨m, hm, -, hmetrics, -⟩ := hsamples s hs
    rw [hmetrics, hh.metricsOf_eq s hs, roundsFor_concat, List.filterMap_append,
      List.filterMap_replicate_of_some hm]

/-- A series is the values of its metric in the rounds that count for the scenario. -/
theorem Gathered.series_eq (hh : Gathered scenarios rounds h) (hs : s ∈ scenarios)
    (metric : Metrics α → α) :
  h.series s metric = History.valuesOf s metric (roundsFor scenarios s rounds)
  := by
  rw [History.series_eq_map_metricsOf, hh.metricsOf_eq s hs, List.map_filterMap]
  rfl

end

namespace Trial

variable {answer : Behaviour} {scenarios : List ScenarioName} {planned : Int} {disk : Disk}
  {rounds rounds' : List (Round Binary64)}

/-- A call ends a run with one error at most. -/
theorem Breaks.unique {n : Nat} {e e' : Failure} (h : Breaks answer planned scenarios n e)
    (h' : Breaks answer planned scenarios n e') :
  e = e'
  := by
  rcases h with herror | ⟨round, s, hok, hlack, rfl⟩
  · rcases h' with herror' | ⟨round', s', hok', -, -⟩
    · apply Except.error.inj (herror.symm.trans herror')
    · cases herror.symm.trans hok'
  · rcases h' with herror' | ⟨round', s', hok', hlack', rfl⟩
    · cases hok.symm.trans herror'
    · obtain rfl := Except.ok.inj (hok.symm.trans hok')
      obtain rfl := Option.some.inj (hlack.symm.trans hlack')
      rfl

variable {c : Config} {run : RunMeta} {target : Text} {result : Except Failure BaselineSheet}
  {t : Trial}

end Trial

end PerfGate
