import PerfGate.Proofs.Fallible
import PerfGate.Proofs.History

/-!
# What a verdict says of the rounds

A verdict is computed from a history.  Here it is described by the rounds that the history
holds: the medians of a scenario are those of its values in the rounds, and the passing rounds
are those that score true.  If the baseline covers the scenarios there is always a verdict.
-/

namespace PerfGate

variable {α : Type} [Scalar α]

/-! ### Rounds -/

/-- Whether a round scores true for a scenario. -/
def scoresTrue (b : Baseline α) (memoryLimitKb : Int) (s : ScenarioName) (round : Round α) : Bool :=
  match Table.get? s round, Table.get? s b with
  | some metrics, some base => roundPasses metrics base memoryLimitKb
  | _, _ => false

/-- The medians of a scenario over rounds. -/
def mediansOver (s : ScenarioName) (rounds : List (Round α)) : Medians α :=
  .ofMetrics
    { rps := Stats.median (History.valuesOf s (·.rps) rounds)
      p99 := Stats.median (History.valuesOf s (·.p99) rounds)
      cpu := Stats.median (History.valuesOf s (·.cpu) rounds)
      rss := Stats.median (History.valuesOf s (·.rss) rounds) }

/-- The rounds, each under its index. -/
def numbered (rounds : List (Round α)) : List (Int × Round α) :=
  rounds.zipIdx.map fun (round, i) => ((i : Int) + 1, round)

omit [Scalar α] in
theorem numbered_concat (rounds : List (Round α)) (round : Round α) :
  numbered (rounds ++ [round]) = numbered rounds ++ [((rounds.length : Int) + 1, round)]
  := by
  simp [numbered, List.zipIdx_append]

omit [Scalar α] in
theorem map_snd_numbered (rounds : List (Round α)) :
  (numbered rounds).map (·.2) = rounds
  := by
  rw [numbered, List.map_map]
  apply List.zipIdx_map_fst

omit [Scalar α] in
theorem length_numbered (rounds : List (Round α)) :
  (numbered rounds).length = rounds.length
  := by
  simp [numbered]

/-! ### The verdict of a history -/

variable {h : History α} {scenarios : List ScenarioName} {rounds : List (Round α)}
  {outcomes : ScenarioName → List Bool} {b : Baseline α} {p : Policy α}

theorem History.Holds.medians_eq (hh : h.Holds scenarios (numbered rounds) outcomes)
    {s : ScenarioName} (hs : s ∈ scenarios) :
  h.medians s = mediansOver s rounds
  := by
  simp only [History.medians, mediansOver, hh.series_eq hs, map_snd_numbered]

/-- A run goes on behind the last round of its target, if the target can grow and the rate varies
too much. -/
theorem goesOn_iff {round target : Int} {p : Policy α} {h : History α} :
  goesOn round target p h = true ↔
    round = target ∧ target < p.maxRounds ∧ isNoisy h p.maxVariation = true
  := by
  rw [goesOn, Bool.and_eq_true, Bool.and_eq_true, beq_iff_eq, decide_eq_true_eq, and_assoc]

/-- A history whose scenarios all have a baseline has a verdict, with one finding for each
scenario, in their order. -/
theorem exists_finalVerdict (p : Policy α) (hb : Covers b h.scenarios) :
  ∃ v, finalVerdict h b p = .ok v
    ∧ v.plannedRounds = p.plannedRounds
    ∧ v.roundsExecuted = h.rounds
    ∧ v.passesNeeded = quorum h.rounds p.minPassRatio p.minPassRounds
    ∧ v.pass = v.scenarios.all (·.pass)
    ∧ List.Forall₂
        (fun s finding => ∃ base, Table.get? s b = some base
          ∧ finding = scenarioFinding h p v.passesNeeded s base)
        h.scenarios v.scenarios
  := by
  unfold finalVerdict
  dsimp only
  apply exists_mapM_bind_ok fun s finding => ∃ base, Table.get? s b = some base
    ∧ finding = scenarioFinding h p (quorum h.rounds p.minPassRatio p.minPassRounds) s base
  · intro s hs
    obtain ⟨base, hbase⟩ := hb.get? hs
    use scenarioFinding h p (quorum h.rounds p.minPassRatio p.minPassRounds) s base
    rw [hbase]
    use rfl, base
  · intro findings hfindings
    refine ⟨_, rfl, rfl, rfl, rfl, rfl, hfindings⟩

/-- What a verdict over rounds says: the findings are about the scenarios, in their order, and
each of them about all the rounds and no others. -/
structure Decides (b : Baseline α) (p : Policy α) (scenarios : List ScenarioName)
    (rounds : List (Round α)) (v : Verdict α) : Prop where
  /-- The planned rounds are those of the policy. -/
  plannedRounds_eq : v.plannedRounds = p.plannedRounds
  /-- All the rounds count as executed. -/
  roundsExecuted_eq : v.roundsExecuted = rounds.length
  /-- The quorum is that of the number of rounds. -/
  passesNeeded_eq : v.passesNeeded = quorum rounds.length p.minPassRatio p.minPassRounds
  /-- Each scenario has its finding. -/
  findings :
    List.Forall₂
      (fun s (finding : ScenarioFinding α) => finding.scenario = s
        ∧ Table.get? s b = some finding.baseline
        ∧ finding.median = mediansOver s rounds
        ∧ finding.rpsVariation = Stats.variation (History.valuesOf s (·.rps) rounds)
        ∧ finding.passRounds = rounds.countP (scoresTrue b p.memoryLimitKb s)
        ∧ finding.roundsExecuted = rounds.length
        ∧ finding.checks = Checks.ofMedians finding.median finding.baseline p.memoryLimitKb
            (v.passesNeeded ≤ finding.passRounds)
        ∧ finding.pass = finding.checks.all)
      scenarios v.scenarios
  /-- The gate passes if all scenarios do. -/
  pass_eq : v.pass = v.scenarios.all (·.pass)

/-- The verdict over a history that holds rounds, each scored for every scenario, is a verdict
over those rounds. -/
theorem History.Holds.exists_decides
    (hh : h.Holds scenarios (numbered rounds) fun s =>
      rounds.map (scoresTrue b p.memoryLimitKb s))
    (hb : Covers b scenarios) :
  ∃ v, finalVerdict h b p = .ok v ∧ Decides b p scenarios rounds v
  := by
  have hrounds : h.rounds = rounds.length := by rw [hh.rounds_eq, length_numbered]
  obtain ⟨v, hv, hplanned, hexecuted, hneeded, hpass, hfindings⟩ :=
    exists_finalVerdict p (hh.scenarios_eq ▸ hb)
  rw [hh.scenarios_eq] at hfindings
  use v, hv
  refine ⟨hplanned, hexecuted.trans hrounds, hneeded.trans (by rw [hrounds]), ?_, hpass⟩
  apply List.forall₂_iff_zip.2
  use hfindings.length_eq
  intro s finding hmem
  have hs : s ∈ scenarios := (List.of_mem_zip hmem).1
  obtain ⟨base, hbase, rfl⟩ := (List.forall₂_iff_zip.1 hfindings).2 hmem
  refine ⟨rfl, hbase, hh.medians_eq hs, ?_, ?_, hrounds, rfl, rfl⟩
  · simp only [scenarioFinding, hh.series_eq hs, map_snd_numbered]
  · simp only [scenarioFinding, hh.passTally_eq hs, List.count_eq_countP, List.countP_map]
    congr 2
    funext round
    simp

end PerfGate
