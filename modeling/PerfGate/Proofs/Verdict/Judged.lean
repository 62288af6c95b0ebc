import Mathlib.Data.List.Induction
import PerfGate.Proofs.Verdict
import PerfGate.Rounds

/-!
# Judged rounds

A gate records each round and then scores it (`History.judge`).  A history is scored if the
outcomes of each scenario are the scores of its metrics (`History.IsScored`), and every history
that comes of judging rounds is (`History.exists_ofRounds`).  A scenario that is listed several
times gets the metrics and the score of each round as often.
-/

namespace PerfGate

variable {α : Type}

/-- The number of rounds in which the metrics of a scenario are as told. -/
def roundsWhere (s : ScenarioName) (told : Metrics α → Bool) (rounds : List (Round α)) : Nat :=
  rounds.countP fun round => (Table.get? s round).any told

theorem countP_flatMap_replicate (n : Nat) (s : ScenarioName) (told : Metrics α → Bool)
    (rounds : List (Round α)) :
  ((rounds.filterMap (Table.get? s)).flatMap (List.replicate n)).countP told =
    n * roundsWhere s told rounds
  := by
  induction rounds with
  | nil => rfl
  | cons round rounds ih =>
    rw [roundsWhere, List.countP_cons, ← roundsWhere]
    cases hround : Table.get? s round with
    | none =>
      rw [List.filterMap_cons_none hround, ih]
      rfl
    | some m =>
      rw [List.filterMap_cons_some hround, List.flatMap_cons, List.countP_append, ih,
        List.countP_replicate, Option.any_some]
      split
      · rw [Nat.mul_succ, Nat.add_comm]
      · rw [Nat.add_zero, Nat.zero_add]

namespace History

/-- The metrics of a scenario, in the order in which they were recorded. -/
def metricsOf (h : History α) (s : ScenarioName) : List (Metrics α) :=
  (h.track s).samples.map (·.metrics)

theorem series_eq_map_metricsOf (h : History α) (s : ScenarioName) (metric : Metrics α → α) :
  h.series s metric = (h.metricsOf s).map metric
  := by
  rw [metricsOf, List.map_map]
  rfl

variable [Scalar α]

/-- Whether the outcomes of each scenario are the scores of its metrics. -/
def IsScored (h : History α) (b : Baseline α) (memoryLimitKb : Int) : Prop :=
  ∀ s ∈ h.scenarios, ∀ base, Table.get? s b = some base →
    (h.track s).outcomes = (h.metricsOf s).map fun m => roundPasses m base memoryLimitKb

theorem IsScored.passTally_eq {h : History α} {b : Baseline α} {memoryLimitKb : Int}
    (hscored : h.IsScored b memoryLimitKb) {s : ScenarioName} (hs : s ∈ h.scenarios)
    {base : BaselineFigures α} (hbase : Table.get? s b = some base) :
  h.passTally s = (h.metricsOf s).countP fun m => roundPasses m base memoryLimitKb
  := by
  rw [passTally, Track.passTally, hscored s hs base hbase, List.count_eq_countP, List.countP_map]
  congr 1
  funext m
  simp

/-- A history with one more round, recorded under its index and then scored for each scenario. -/
def judge (b : Baseline α) (memoryLimitKb : Int) (h : History α) (entry : Int × Round α) :
    Except RoundError (History α) := do
  let h ← h.record entry.1 entry.2
  h.scenarios.foldlM (fun h s => h.addOutcome s (scoresTrue b memoryLimitKb s entry.2)) h

/-- The history of rounds that were judged one after the other. -/
def ofRounds (b : Baseline α) (memoryLimitKb : Int) (scenarios : List ScenarioName)
    (rounds : List (Round α)) : Except RoundError (History α) :=
  (numbered rounds).foldlM (judge b memoryLimitKb) (.start scenarios)

/-- What a gate does with a round is to judge it. -/
theorem foldlM_score_eq {b : Baseline Binary64} {round : Round Binary64} (memoryLimitKb : Int)
    {todo : List ScenarioName} (hb : Covers b todo) (hround : Covers round todo)
    (h : History Binary64) :
  todo.foldlM
      (fun h s =>
        match Table.get? s round, Table.get? s b with
        | some metrics, some base => h.addOutcome s (roundPasses metrics base memoryLimitKb)
        | _, _ => .ok h)
      h =
    todo.foldlM (fun h s => h.addOutcome s (scoresTrue b memoryLimitKb s round)) h
  := by
  induction todo generalizing h with
  | nil => rfl
  | cons s todo ih =>
    obtain ⟨metrics, hmetrics⟩ := hround.get? List.mem_cons_self
    obtain ⟨base, hbase⟩ := hb.get? List.mem_cons_self
    have hscore : scoresTrue b memoryLimitKb s round = roundPasses metrics base memoryLimitKb := by
      rw [scoresTrue, hmetrics, hbase]
    rw [List.foldlM_cons, List.foldlM_cons, hmetrics, hbase, hscore]
    dsimp only
    congr 1
    funext h'
    apply ih (fun n hn => hb n (List.mem_cons_of_mem s hn))
      (fun n hn => hround n (List.mem_cons_of_mem s hn))

theorem record_bind_scoreAll {b : Baseline Binary64} {h : History Binary64}
    (hb : Covers b h.scenarios) (memoryLimitKb index : Int) (round : Round Binary64) :
  (h.record index round >>= scoreAll b memoryLimitKb round) =
    h.judge b memoryLimitKb (index, round)
  := by
  unfold judge History.record
  cases hlack : h.scenarios.find? (fun s => !Table.has s round) with
  | some s => rfl
  | none => apply foldlM_score_eq memoryLimitKb hb (firstLacking?_eq_none_iff.1 hlack)

/-! ### One round -/

omit [Scalar α] in
/-- Each scenario gets its sample as often as it is listed. -/
theorem get?_foldl_addSample_count (index : Int) {round : Round α} (scenarios : List ScenarioName)
    (tracks : Table (Track α)) {n : ScenarioName} {m : Metrics α}
    (hm : Table.get? n round = some m) :
  Table.get? n (scenarios.foldl (addSample index round) tracks) =
    (Table.get? n tracks).map fun t =>
      { t with samples := t.samples ++
          List.replicate (scenarios.count n) { scenario := n, round := index, metrics := m } }
  := by
  have hsample : sampleOf? n (index, round) = some { scenario := n, round := index, metrics := m } := by
    rw [sampleOf?, hm]
    rfl
  induction scenarios generalizing tracks with
  | nil => simp
  | cons s scenarios ih =>
    rw [List.foldl_cons, ih, get?_addSample]
    by_cases hn : n = s
    · subst hn
      rw [if_pos rfl, hsample, Option.map_map, List.count_cons_self, List.replicate_succ]
      congr 1
      funext t
      simp
    · rw [if_neg hn, List.count_cons_of_ne (Ne.symm hn)]

omit [Scalar α] in
/-- A round that covers the scenarios is recorded: each of them gets its metrics as often as it is
listed, and no outcome. -/
theorem exists_record {h : History α} (htracks : Covers h.tracks h.scenarios) (index : Int)
    {round : Round α} (hround : Covers round h.scenarios) :
  ∃ h', h.record index round = .ok h' ∧ h'.scenarios = h.scenarios ∧ h'.rounds = h.rounds + 1
    ∧ ∀ s ∈ h.scenarios, ∃ m, Table.get? s round = some m
        ∧ Table.has s h'.tracks = true
        ∧ h'.metricsOf s = h.metricsOf s ++ List.replicate (h.scenarios.count s) m
        ∧ (h'.track s).outcomes = (h.track s).outcomes
  := by
  have hfind := firstLacking?_eq_none_iff.2 hround
  unfold firstLacking? at hfind
  unfold History.record
  rw [hfind]
  refine ⟨_, rfl, rfl, rfl, ?_⟩
  intro s hs
  obtain ⟨m, hm⟩ := hround.get? hs
  obtain ⟨t, ht⟩ := htracks.get? hs
  have hget := get?_foldl_addSample_count index h.scenarios h.tracks hm
  rw [ht] at hget
  use m, hm
  rw [Table.has, metricsOf, metricsOf, track, track, hget, ht]
  simp

omit [Scalar α] in
theorem exists_addOutcome {h : History α} {s : ScenarioName} (hs : Table.has s h.tracks = true)
    (pass : Bool) :
  ∃ h', h.addOutcome s pass = .ok h' ∧ h'.scenarios = h.scenarios ∧ h'.rounds = h.rounds
    ∧ ∀ n, Table.get? n h'.tracks = (Table.get? n h.tracks).map fun t =>
        { t with outcomes := t.outcomes ++ if n = s then [pass] else [] }
  := by
  unfold addOutcome
  rw [if_pos hs]
  refine ⟨_, rfl, rfl, rfl, ?_⟩
  intro n
  rw [Table.get?_modify]
  by_cases hn : n = s
  · subst hn
    simp
  · simp [hn]

omit [Scalar α] in
/-- Each scenario gets its score as often as it is listed. -/
theorem exists_foldlM_addOutcome (score : ScenarioName → Bool) {todo : List ScenarioName}
    {h : History α} (htracks : Covers h.tracks todo) :
  ∃ h', todo.foldlM (fun h s => h.addOutcome s (score s)) h = .ok h'
    ∧ h'.scenarios = h.scenarios ∧ h'.rounds = h.rounds
    ∧ ∀ n, Table.get? n h'.tracks = (Table.get? n h.tracks).map fun t =>
        { t with outcomes := t.outcomes ++ List.replicate (todo.count n) (score n) }
  := by
  induction todo generalizing h with
  | nil =>
    use h, rfl, rfl, rfl
    simp
  | cons s todo ih =>
    obtain ⟨h', hadd, hscenarios', hrounds', htracks'⟩ :=
      exists_addOutcome (htracks s List.mem_cons_self) (score s)
    have hcovers : Covers h'.tracks todo := by
      intro n hn
      rw [Table.has, htracks', Option.isSome_map]
      apply htracks n (List.mem_cons_of_mem s hn)
    obtain ⟨h'', hrest, hscenarios, hrounds, htracks''⟩ := ih hcovers
    use h''
    refine ⟨?_, hscenarios.trans hscenarios', hrounds.trans hrounds', ?_⟩
    · rw [List.foldlM_cons, hadd]
      apply hrest
    · intro n
      rw [htracks'', htracks', Option.map_map]
      congr 1
      funext t
      by_cases hn : n = s
      · subst hn
        simp [List.replicate_succ]
      · simp [hn, List.count_cons_of_ne (Ne.symm hn)]

/-- Whether a history of scenarios comes of judging rounds. -/
structure Judged (b : Baseline α) (memoryLimitKb : Int) (scenarios : List ScenarioName)
    (rounds : List (Round α)) (h : History α) : Prop where
  /-- The scenarios are those of the history. -/
  scenarios_eq : h.scenarios = scenarios
  /-- Each round is counted. -/
  rounds_eq : h.rounds = rounds.length
  /-- Each scenario has a track. -/
  covers : Covers h.tracks scenarios
  /-- Each scenario has its metrics of each round, as often as it is listed. -/
  metricsOf_eq :
    ∀ s ∈ scenarios, h.metricsOf s =
      (rounds.filterMap (Table.get? s)).flatMap (List.replicate (scenarios.count s))
  /-- The outcomes are the scores of the metrics. -/
  isScored : h.IsScored b memoryLimitKb

variable {b : Baseline α} {memoryLimitKb : Int} {scenarios : List ScenarioName}
  {rounds : List (Round α)} {h : History α}

theorem judged_start : Judged b memoryLimitKb scenarios [] (start scenarios) := by
  have htrack : ∀ s ∈ scenarios, Table.get? s (start scenarios : History α).tracks = some {} := by
    intro s hs
    rw [start, get?_foldl_set, if_pos hs]
  have hempty : ∀ s ∈ scenarios, (start scenarios : History α).track s = {} := by
    intro s hs
    rw [track, htrack s hs]
    rfl
  constructor
  · rfl
  · rfl
  · intro s hs
    rw [Table.has, htrack s hs]
    rfl
  · intro s hs
    rw [metricsOf, hempty s hs]
    rfl
  · intro s hs base _
    rw [metricsOf, hempty s hs]
    rfl

theorem Judged.mem_metricsOf (hh : Judged b memoryLimitKb scenarios rounds h) {s : ScenarioName}
    (hs : s ∈ scenarios) {m : Metrics α} (hm : m ∈ h.metricsOf s) :
  ∃ round ∈ rounds, Table.get? s round = some m
  := by
  rw [hh.metricsOf_eq s hs] at hm
  obtain ⟨m', hm', hreplicate⟩ := List.mem_flatMap.1 hm
  obtain rfl := List.eq_of_mem_replicate hreplicate
  apply List.mem_filterMap.1 hm'

theorem Judged.length_metricsOf (hh : Judged b memoryLimitKb scenarios rounds h)
    (hrounds : ∀ round ∈ rounds, Covers round scenarios) {s : ScenarioName} (hs : s ∈ scenarios) :
  (h.metricsOf s).length = rounds.length * scenarios.count s
  := by
  have hlength : (rounds.filterMap (Table.get? s)).length = rounds.length := by
    rw [List.length_filterMap_eq_countP]
    apply List.countP_eq_length.2
    intro round hround
    apply hrounds round hround s hs
  simp [hh.metricsOf_eq s hs, hlength]

/-- A scenario has the metrics of each round as often as it is listed. -/
theorem Judged.countP_metricsOf (hh : Judged b memoryLimitKb scenarios rounds h)
    {s : ScenarioName} (hs : s ∈ scenarios) (told : Metrics α → Bool) :
  (h.metricsOf s).countP told = scenarios.count s * roundsWhere s told rounds
  := by
  rw [hh.metricsOf_eq s hs, countP_flatMap_replicate]

/-- The passing rounds of a scenario are those that score true, each as often as it is listed. -/
theorem Judged.passTally_eq (hh : Judged b memoryLimitKb scenarios rounds h)
    {s : ScenarioName} (hs : s ∈ scenarios) {base : BaselineFigures α}
    (hbase : Table.get? s b = some base) :
  h.passTally s = scenarios.count s * rounds.countP (scoresTrue b memoryLimitKb s)
  := by
  rw [hh.isScored.passTally_eq (hh.scenarios_eq ▸ hs) hbase, hh.countP_metricsOf hs, roundsWhere]
  congr 2
  funext round
  rw [scoresTrue, hbase]
  cases Table.get? s round with
  | none => rfl
  | some m => rfl

/-- A round that covers the scenarios is recorded and scored. -/
theorem Judged.exists_judge (hh : Judged b memoryLimitKb scenarios rounds h) (index : Int)
    {round : Round α} (hround : Covers round scenarios) :
  ∃ h', judge b memoryLimitKb h (index, round) = .ok h'
    ∧ Judged b memoryLimitKb scenarios (rounds ++ [round]) h'
  := by
  obtain rfl := hh.scenarios_eq
  obtain ⟨h', hrecord, hscenarios', hrounds', hsamples⟩ := exists_record hh.covers index hround
  have hcovers : Covers h'.tracks h.scenarios := by
    intro s hs
    obtain ⟨m, -, hhas, -⟩ := hsamples s hs
    apply hhas
  obtain ⟨h'', hscore, hscenarios, hrounds, htracks⟩ :=
    exists_foldlM_addOutcome (fun s => scoresTrue b memoryLimitKb s round) hcovers
  have htrack : ∀ s ∈ h.scenarios, ∃ m, Table.get? s round = some m
      ∧ Table.has s h''.tracks = true
      ∧ h''.metricsOf s = h.metricsOf s ++ List.replicate (h.scenarios.count s) m
      ∧ (h''.track s).outcomes = (h.track s).outcomes ++
          List.replicate (h.scenarios.count s) (scoresTrue b memoryLimitKb s round) := by
    intro s hs
    obtain ⟨m, hm, -, hmetrics, houtcomes⟩ := hsamples s hs
    obtain ⟨t, ht⟩ := hcovers.get? hs
    have hget := htracks s
    rw [ht] at hget
    rw [metricsOf, track, ht] at hmetrics
    rw [track, ht] at houtcomes
    use m, hm
    rw [Table.has, metricsOf, track, hget, ← hmetrics, ← houtcomes]
    simp
  use h''
  constructor
  · unfold judge
    rw [hrecord]
    show h'.scenarios.foldlM _ h' = _
    rw [hscenarios', hscore]
  · constructor
    · rw [hscenarios, hscenarios']
    · rw [hrounds, hrounds', hh.rounds_eq, List.length_append, List.length_singleton]
      rfl
    · intro s hs
      obtain ⟨m, -, hhas, -⟩ := htrack s hs
      apply hhas
    · intro s hs
      obtain ⟨m, hm, -, hmetrics, -⟩ := htrack s hs
      rw [hmetrics, hh.metricsOf_eq s hs, List.filterMap_append, List.flatMap_append]
      simp [hm]
    · intro s hs base hbase
      rw [hscenarios, hscenarios'] at hs
      obtain ⟨m, hm, -, hmetrics, houtcomes⟩ := htrack s hs
      rw [hmetrics, houtcomes, hh.isScored s hs base hbase, List.map_append, List.map_replicate,
        scoresTrue, hm, hbase]

/-- One more round is judged behind the others. -/
theorem ofRounds_concat (hfold : ofRounds b memoryLimitKb scenarios rounds = .ok h)
    (round : Round α) :
  ofRounds b memoryLimitKb scenarios (rounds ++ [round]) =
    judge b memoryLimitKb h (rounds.length + 1, round)
  := by
  unfold ofRounds at hfold ⊢
  rw [numbered_concat, List.foldlM_append, hfold]
  show (judge b memoryLimitKb h (rounds.length + 1, round) >>= pure) = _
  rw [bind_pure]

/-- Rounds that cover the scenarios are judged, and the history is one of all of them. -/
theorem exists_ofRounds (b : Baseline α) (memoryLimitKb : Int)
    (hrounds : ∀ round ∈ rounds, Covers round scenarios) :
  ∃ h, ofRounds b memoryLimitKb scenarios rounds = .ok h
    ∧ Judged b memoryLimitKb scenarios rounds h
  := by
  induction rounds using List.reverseRecOn with
  | nil => exact ⟨start scenarios, rfl, judged_start⟩
  | append_singleton rounds round ih =>
    obtain ⟨h, hfold, hh⟩ := ih fun r hr => hrounds r (List.mem_append_left _ hr)
    obtain ⟨h', hjudge, hh'⟩ :=
      hh.exists_judge (rounds.length + 1) (hrounds round (by simp))
    use h'
    constructor
    · rw [ofRounds_concat hfold, hjudge]
    · apply hh'

/-- Judged rounds have a verdict if the baseline covers the scenarios; it goes by the quorum of
their number, and has a finding for each scenario, in their order. -/
theorem Judged.exists_finalVerdict {p : Policy α}
    (hh : Judged b p.memoryLimitKb scenarios rounds h) (hb : Covers b scenarios) :
  ∃ v, finalVerdict h b p = .ok v
    ∧ v.passesNeeded = quorum rounds.length p.minPassRatio p.minPassRounds
    ∧ v.pass = v.scenarios.all (·.pass)
    ∧ List.Forall₂
        (fun s finding => ∃ base, Table.get? s b = some base
          ∧ finding = scenarioFinding h p v.passesNeeded s base)
        scenarios v.scenarios
  := by
  obtain rfl := hh.scenarios_eq
  obtain ⟨v, hv, -, -, hneeded, hpass, hfindings⟩ := PerfGate.exists_finalVerdict p hb
  rw [hh.rounds_eq] at hneeded
  use v, hv, hneeded, hpass

end History

end PerfGate
