import Mathlib.Logic.Function.Basic
import PerfGate.Baseline.Entry
import PerfGate.Verdict

/-!
# What a history holds

`History.Holds` says of a history which rounds were recorded, each under its index, and which
outcomes of each scenario.  A fresh history holds nothing; recording a round that covers the
scenarios adds that round, and an outcome of one of them adds that outcome.  A round that does
not cover them is refused with the first scenario that it lacks.  What the verdict reads of a
history, its series and its tallies, follows from what the history holds.
-/

namespace PerfGate

/-- Whether a table has a value for each of the names. -/
def Covers {β : Type} (t : Table β) (names : List Text) : Prop :=
  ∀ name ∈ names, Table.has name t = true

/-- The first of the names that a table has no value for. -/
def firstLacking? {β : Type} (t : Table β) (names : List Text) : Option Text :=
  names.find? fun name => !Table.has name t

theorem firstLacking?_eq_none_iff {β : Type} {t : Table β} {names : List Text} :
  firstLacking? t names = none ↔ Covers t names
  := by
  simp [firstLacking?, Covers]

theorem Covers.get? {β : Type} {t : Table β} {names : List Text} (h : Covers t names)
    {name : Text} (hname : name ∈ names) :
  ∃ b, Table.get? name t = some b
  := Option.isSome_iff_exists.1 (h name hname)

/-- A baseline that lacks a scenario is refused, and the first one it lacks is named. -/
theorem Baseline.requireAll_eq {α : Type} (wanted : List ScenarioName) (b : Baseline α) :
  requireAll wanted b =
    match firstLacking? b wanted with
    | none => .ok ()
    | some s => .error (.scenarioMissing s)
  := by
  unfold requireAll firstLacking?
  cases wanted.find? fun s => !Table.has s b with
  | none => rfl
  | some s => rfl

namespace History

variable {α : Type}

/-- The sample of a scenario in a round, if the round has one. -/
def sampleOf? (s : ScenarioName) (entry : Int × Round α) : Option (Sample α) :=
  (Table.get? s entry.2).map fun metrics => { scenario := s, round := entry.1, metrics }

/-- The samples of a scenario in rounds, each under its index. -/
def samplesOf (s : ScenarioName) (entries : List (Int × Round α)) : List (Sample α) :=
  entries.filterMap (sampleOf? s)

theorem samplesOf_concat (s : ScenarioName) (entries : List (Int × Round α))
    (entry : Int × Round α) :
  samplesOf s (entries ++ [entry]) = samplesOf s entries ++ (sampleOf? s entry).toList
  := by
  rw [samplesOf, List.filterMap_append, ← samplesOf]
  cases h : sampleOf? s entry with
  | none => simp [h]
  | some sample => simp [h]

/-- Whether a history of scenarios holds exactly these rounds, each under its index, and these
outcomes. -/
structure Holds (h : History α) (scenarios : List ScenarioName)
    (entries : List (Int × Round α)) (outcomes : ScenarioName → List Bool) : Prop where
  /-- The scenarios are those of the history. -/
  scenarios_eq : h.scenarios = scenarios
  /-- Each round is counted. -/
  rounds_eq : h.rounds = entries.length
  /-- Each scenario has its samples and its outcomes. -/
  get?_tracks :
    ∀ s ∈ scenarios, Table.get? s h.tracks =
      some { samples := samplesOf s entries, outcomes := outcomes s }
  /-- No other scenario has a track. -/
  get?_tracks_foreign : ∀ s ∉ scenarios, Table.get? s h.tracks = none

/-! ### The fresh history -/

theorem get?_foldl_set (scenarios : List ScenarioName) (tracks : Table (Track α))
    (s : ScenarioName) :
  Table.get? s (scenarios.foldl (fun t s => Table.set s {} t) tracks) =
    if s ∈ scenarios then some {} else Table.get? s tracks
  := by
  induction scenarios generalizing tracks with
  | nil => simp
  | cons r scenarios ih =>
    rw [List.foldl_cons, ih, Table.get?_set]
    by_cases hs : s ∈ scenarios
    · simp [hs]
    · simp [hs]

theorem holds_start (scenarios : List ScenarioName) :
  (start scenarios : History α).Holds scenarios [] fun _ => []
  := by
  constructor
  · rfl
  · rfl
  · intro s hs
    rw [start, get?_foldl_set, if_pos hs]
    rfl
  · intro s hs
    rw [start, get?_foldl_set, if_neg hs]
    rfl

/-! ### Recording a round -/

theorem get?_addSample (index : Int) (round : Round α) (tracks : Table (Track α))
    (s n : ScenarioName) :
  Table.get? n (addSample index round tracks s) =
    if n = s then
      (Table.get? s tracks).map fun t =>
        { t with samples := t.samples ++ (sampleOf? s (index, round)).toList }
    else Table.get? n tracks
  := by
  unfold addSample sampleOf?
  cases Table.get? s round with
  | none =>
    by_cases hn : n = s
    · simp [hn]
    · simp [hn]
  | some metrics =>
    dsimp only
    rw [Table.get?_modify]
    rfl

/-- Each scenario gets its sample once, if no scenario is named twice. -/
theorem get?_foldl_addSample (index : Int) (round : Round α) {scenarios : List ScenarioName}
    (hnodup : scenarios.Nodup) (tracks : Table (Track α)) (n : ScenarioName) :
  Table.get? n (scenarios.foldl (addSample index round) tracks) =
    if n ∈ scenarios then
      (Table.get? n tracks).map fun t =>
        { t with samples := t.samples ++ (sampleOf? n (index, round)).toList }
    else Table.get? n tracks
  := by
  induction scenarios generalizing tracks with
  | nil => simp
  | cons s scenarios ih =>
    obtain ⟨hs, hnodup⟩ := List.nodup_cons.1 hnodup
    rw [List.foldl_cons, ih hnodup, get?_addSample]
    by_cases hn : n = s
    · subst hn
      simp [hs]
    · simp [hn]

variable {h : History α} {scenarios : List ScenarioName} {entries : List (Int × Round α)}
  {outcomes : ScenarioName → List Bool}

/-- A round that covers the scenarios is recorded. -/
theorem Holds.record (hh : h.Holds scenarios entries outcomes) (hnodup : scenarios.Nodup)
    (index : Int) {round : Round α} (hround : Covers round scenarios) :
  ∃ h', h.record index round = .ok h'
    ∧ h'.Holds scenarios (entries ++ [(index, round)]) outcomes
  := by
  have hfind : h.scenarios.find? (fun s => !Table.has s round) = none := by
    rw [hh.scenarios_eq]
    apply firstLacking?_eq_none_iff.2 hround
  unfold History.record
  rw [hfind]
  refine ⟨_, rfl, ?_⟩
  constructor
  · apply hh.scenarios_eq
  · simp [hh.rounds_eq]
  · intro s hs
    rw [hh.scenarios_eq, get?_foldl_addSample index round hnodup, if_pos hs, hh.get?_tracks s hs,
      samplesOf_concat]
    rfl
  · intro s hs
    rw [hh.scenarios_eq, get?_foldl_addSample index round hnodup, if_neg hs,
      hh.get?_tracks_foreign s hs]

/-- A round that lacks a scenario is refused, and the first one it lacks is named. -/
theorem record_eq_error (index : Int) {round : Round α} {s : ScenarioName}
    (hround : firstLacking? round h.scenarios = some s) :
  h.record index round = .error (.sampleMissing index s)
  := by
  unfold firstLacking? at hround
  unfold History.record
  rw [hround]

theorem Holds.record_error (hh : h.Holds scenarios entries outcomes) (index : Int)
    {round : Round α} {s : ScenarioName} (hround : firstLacking? round scenarios = some s) :
  h.record index round = .error (.sampleMissing index s)
  := by
  apply record_eq_error
  rw [hh.scenarios_eq, hround]

/-! ### Recording outcomes -/

/-- An outcome of a scenario is added to its outcomes. -/
theorem Holds.addOutcome (hh : h.Holds scenarios entries outcomes) {s : ScenarioName}
    (hs : s ∈ scenarios) (pass : Bool) :
  ∃ h', h.addOutcome s pass = .ok h'
    ∧ h'.Holds scenarios entries (Function.update outcomes s (outcomes s ++ [pass]))
  := by
  have hhas : Table.has s h.tracks = true := by
    rw [Table.has, hh.get?_tracks s hs]
    rfl
  unfold History.addOutcome
  rw [if_pos hhas]
  refine ⟨_, rfl, ?_⟩
  constructor
  · apply hh.scenarios_eq
  · apply hh.rounds_eq
  · intro n hn
    rw [Table.get?_modify]
    by_cases hns : n = s
    · subst hns
      simp [hh.get?_tracks n hn]
    · rw [if_neg hns, hh.get?_tracks n hn, Function.update_of_ne hns]
  · intro n hn
    have hns : n ≠ s := by
      rintro rfl
      exact hn hs
    rw [Table.get?_modify, if_neg hns, hh.get?_tracks_foreign n hn]

/-! ### Reading -/

theorem Holds.track_eq (hh : h.Holds scenarios entries outcomes) {s : ScenarioName}
    (hs : s ∈ scenarios) :
  h.track s = { samples := samplesOf s entries, outcomes := outcomes s }
  := by
  rw [track, hh.get?_tracks s hs]
  rfl

theorem Holds.passTally_eq (hh : h.Holds scenarios entries outcomes) {s : ScenarioName}
    (hs : s ∈ scenarios) :
  h.passTally s = (outcomes s).count true
  := by
  rw [passTally, hh.track_eq hs]
  rfl

/-- The values of one metric of a scenario in rounds. -/
def valuesOf (s : ScenarioName) (metric : Metrics α → α) (rounds : List (Round α)) : List α :=
  rounds.filterMap fun round => (Table.get? s round).map metric

theorem map_samplesOf (s : ScenarioName) (metric : Metrics α → α)
    (entries : List (Int × Round α)) :
  (samplesOf s entries).map (fun sample => metric sample.metrics) =
    valuesOf s metric (entries.map (·.2))
  := by
  simp only [samplesOf, valuesOf, List.map_filterMap, List.filterMap_map]
  congr 1
  funext entry
  rw [sampleOf?, Option.map_map]
  rfl

/-- A series is the values of its metric in the rounds that the history holds. -/
theorem Holds.series_eq (hh : h.Holds scenarios entries outcomes) {s : ScenarioName}
    (hs : s ∈ scenarios) (metric : Metrics α → α) :
  h.series s metric = valuesOf s metric (entries.map (·.2))
  := by
  rw [series, hh.track_eq hs, ← map_samplesOf]
  rfl

end History

end PerfGate
