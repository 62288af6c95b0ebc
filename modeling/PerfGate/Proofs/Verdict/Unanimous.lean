import PerfGate.Proofs.Verdict.Monotone
import PerfGate.Proofs.Verdict.Quorum

/-!
# Rounds that all pass

If every round passes for every scenario then, in exact numbers, the medians hold against the
baseline as well, and the verdict is up to the quorum alone.  The processor cost of the medians is
the one that needs an argument, for it is a ratio of medians that may come of different rounds:
each round spends at most a fixed multiple of its rate, so the median time is at most that
multiple of the median rate.
-/

namespace PerfGate

/-! ### Medians -/

/-- Medians of metrics that all pass hold against the baseline. -/
theorem roundPasses_medians {ms : List (Metrics ℚ)} (hne : ms ≠ []) {base : BaselineFigures ℚ}
    (hrps : 0 < base.rps) (hcost : 0 ≤ base.cpuCost) {memoryLimitKb : Int}
    (hpass : ∀ m ∈ ms, roundPasses m base memoryLimitKb = true) :
  base.rps ≤ Stats.median (ms.map (·.rps))
    ∧ Stats.median (ms.map (·.p99)) ≤ base.p99
    ∧ cpuCost (Stats.median (ms.map (·.cpu))) (Stats.median (ms.map (·.rps))) ≤ base.cpuCost
    ∧ Stats.median (ms.map (·.rss)) ≤ memoryLimitKb
  := by
  have hmeets := fun m hm => roundPasses_iff.1 (hpass m hm)
  have hne' : ∀ f : Metrics ℚ → ℚ, ms.map f ≠ [] := fun f hnil => hne (List.map_eq_nil_iff.1 hnil)
  have hrate : base.rps ≤ Stats.median (ms.map (·.rps)) := by
    apply Stats.le_median (hne' _)
    rw [List.forall_mem_map]
    intro m hm
    apply (hmeets m hm).1
  refine ⟨hrate, ?_, ?_, ?_⟩
  · apply Stats.median_le (hne' _)
    rw [List.forall_mem_map]
    intro m hm
    apply (hmeets m hm).2.1
  · have htime : Stats.median (ms.map (·.cpu))
        ≤ base.cpuCost / 1000 * Stats.median (ms.map (·.rps)) := by
      rw [← Stats.median_map_mul (by positivity), List.map_map]
      apply Stats.median_le_median
      rw [List.forall₂_map_left_iff, List.forall₂_map_right_iff]
      apply List.forall₂_same.2
      intro m hm
      obtain ⟨hround, -, hspent, -⟩ := hmeets m hm
      have hpos : 0 < m.rps := hrps.trans_le hround
      rw [cpuCost_of_pos hpos, div_le_iff₀ hpos] at hspent
      show m.cpu ≤ base.cpuCost / 1000 * m.rps
      linarith
    have hpos : 0 < Stats.median (ms.map (·.rps)) := hrps.trans_le hrate
    rw [cpuCost_of_pos hpos, div_le_iff₀ hpos]
    linarith
  · apply Stats.median_le (hne' _)
    rw [List.forall_mem_map]
    intro m hm
    apply (hmeets m hm).2.2.2

/-! ### Verdict -/

/-- What scores true is a round with metrics of the scenario that pass. -/
theorem exists_roundPasses_of_scoresTrue {α : Type} [Scalar α] {b : Baseline α} {memoryLimitKb : Int}
    {s : ScenarioName} {base : BaselineFigures α} (hget : Table.get? s b = some base)
    {round : Round α} (hscore : scoresTrue b memoryLimitKb s round = true) :
  ∃ m, Table.get? s round = some m ∧ roundPasses m base memoryLimitKb = true
  := by
  unfold scoresTrue at hscore
  rw [hget] at hscore
  cases hm : Table.get? s round with
  | none => simp [hm] at hscore
  | some m =>
    rw [hm] at hscore
    use m, rfl, hscore

theorem le_mul_count {scenarios : List ScenarioName} {s : ScenarioName} (hs : s ∈ scenarios)
    {n : Nat} {k : Int} (hk : k ≤ n) :
  k ≤ n * scenarios.count s
  := by
  have hcount : n * 1 ≤ n * scenarios.count s := Nat.mul_le_mul_left n (List.count_pos_iff.2 hs)
  push_cast [← Int.ofNat_le] at hcount
  omega

section Unanimous

variable {b : Baseline ℚ} {p : Policy ℚ} {scenarios : List ScenarioName} {rounds : List (Round ℚ)}
  {h : History ℚ}

/-- A scenario for which every round scores true has the four checks of its medians, and a passing
round for each time that it was scored. -/
theorem History.Judged.checks_eq (hh : h.Judged b p.memoryLimitKb scenarios rounds)
    (hrounds : ∀ round ∈ rounds, Covers round scenarios) (hne : rounds ≠ []) {s : ScenarioName}
    (hs : s ∈ scenarios) {base : BaselineFigures ℚ} (hget : Table.get? s b = some base)
    (hrps : 0 < base.rps) (hcost : 0 ≤ base.cpuCost)
    (hpass : ∀ round ∈ rounds, scoresTrue b p.memoryLimitKb s round = true) (required : Int) :
  (scenarioFinding h p required s base).checks =
    { throughput := true, latency := true, cpuEfficiency := true, memory := true
      quorum := decide (required ≤ rounds.length * scenarios.count s) }
  := by
  have hlength := hh.length_metricsOf hrounds hs
  have hmetrics : h.metricsOf s ≠ [] := by
    apply List.ne_nil_of_length_pos
    rw [hlength]
    apply Nat.mul_pos (List.length_pos_iff.2 hne) (List.count_pos_iff.2 hs)
  have hpasses : ∀ m ∈ h.metricsOf s, roundPasses m base p.memoryLimitKb = true := by
    intro m hm
    obtain ⟨round, hmem, hm'⟩ := hh.mem_metricsOf hs hm
    obtain ⟨m', hm'', hround⟩ := exists_roundPasses_of_scoresTrue hget (hpass round hmem)
    obtain rfl := Option.some.inj (hm'.symm.trans hm'')
    apply hround
  have htally : (h.passTally s : Int) = rounds.length * scenarios.count s := by
    rw [hh.passTally_eq hs hget, List.countP_eq_length.2 hpass, Nat.mul_comm]
    push_cast
    rfl
  obtain ⟨hrate, hlatency, hefficiency, hmemory⟩ := roundPasses_medians hmetrics hrps hcost hpasses
  simp only [← History.series_eq_map_metricsOf] at hrate hlatency hefficiency hmemory
  simp only [scenarioFinding, Checks.ofMedians, htally, Checks.mk.injEq, Exact.le_iff,
    Exact.ofInt_eq, and_true]
  use hrate, hlatency, hefficiency, hmemory

/-- If every round scores true for every scenario, the medians hold against the baseline, and the
gate passes exactly if the quorum is within the scores of each scenario, which count as often as
the scenario is listed. -/
theorem exists_finalVerdict_of_unanimous (hne : rounds ≠ [])
    (hbase : ∀ s ∈ scenarios, ∃ base, Table.get? s b = some base ∧ 0 < base.rps ∧ 0 ≤ base.cpuCost)
    (hpass : ∀ s ∈ scenarios, ∀ round ∈ rounds, scoresTrue b p.memoryLimitKb s round = true) :
  ∃ h v, History.ofRounds b p.memoryLimitKb scenarios rounds = .ok h
    ∧ finalVerdict h b p = .ok v
    ∧ List.Forall₂
        (fun s finding => finding.scenario = s ∧ finding.checks.throughput = true
          ∧ finding.checks.latency = true ∧ finding.checks.cpuEfficiency = true
          ∧ finding.checks.memory = true)
        scenarios v.scenarios
    ∧ (v.pass = true ↔ ∀ s ∈ scenarios,
        quorum rounds.length p.minPassRatio p.minPassRounds ≤ rounds.length * scenarios.count s)
    ∧ (scenarios ≠ [] → scenarios.Nodup →
        (v.pass = true ↔ quorum rounds.length p.minPassRatio p.minPassRounds ≤ rounds.length))
    ∧ (p.minPassRatio ≤ 1 → (∀ least, p.minPassRounds = some least → least ≤ rounds.length) →
        quorum rounds.length p.minPassRatio p.minPassRounds ≤ rounds.length ∧ v.pass = true)
  := by
  have hb : Covers b scenarios := by
    intro s hs
    obtain ⟨base, hget, -⟩ := hbase s hs
    rw [Table.has, hget]
    rfl
  have hrounds : ∀ round ∈ rounds, Covers round scenarios := by
    intro round hmem s hs
    obtain ⟨base, hget, -⟩ := hbase s hs
    obtain ⟨m, hm, -⟩ := exists_roundPasses_of_scoresTrue hget (hpass s hs round hmem)
    rw [Table.has, hm]
    rfl
  obtain ⟨h, hh, hjudged⟩ := History.exists_ofRounds b p.memoryLimitKb hrounds
  obtain ⟨v, hv, -, -, hneeded, hall, hfindings⟩ :=
    exists_finalVerdict p (hjudged.scenarios_eq ▸ hb : Covers b h.scenarios)
  rw [hjudged.scenarios_eq] at hfindings
  rw [hjudged.rounds_eq] at hneeded
  have hchecks : ∀ s ∈ scenarios, ∀ base, Table.get? s b = some base →
      (scenarioFinding h p v.passesNeeded s base).checks =
        { throughput := true, latency := true, cpuEfficiency := true, memory := true
          quorum := decide (v.passesNeeded ≤ rounds.length * scenarios.count s) } := by
    intro s hs base hget
    obtain ⟨base', hget', hrps, hcost⟩ := hbase s hs
    obtain rfl := Option.some.inj (hget.symm.trans hget')
    apply hjudged.checks_eq hrounds hne hs hget hrps hcost (hpass s hs)
  have hpassIff : v.pass = true ↔ ∀ s ∈ scenarios,
      quorum rounds.length p.minPassRatio p.minPassRounds
        ≤ rounds.length * scenarios.count s := by
    rw [hall, all_pass_iff hfindings, ← hneeded]
    apply forall₂_congr
    intro s hs
    obtain ⟨base, hget, -⟩ := hbase s hs
    have hfinding : (scenarioFinding h p v.passesNeeded s base).pass =
        decide (v.passesNeeded ≤ rounds.length * scenarios.count s) := by
      show Checks.all (scenarioFinding h p v.passesNeeded s base).checks = _
      rw [hchecks s hs base hget]
      rfl
    simp [hget, hfinding]
  refine ⟨h, v, hh, hv, ?_, hpassIff, ?_, ?_⟩
  · apply List.forall₂_iff_zip.2
    use hfindings.length_eq
    intro s finding hmem
    obtain ⟨base, hget, rfl⟩ := (List.forall₂_iff_zip.1 hfindings).2 hmem
    rw [hchecks s (List.of_mem_zip hmem).1 base hget]
    use rfl, rfl, rfl, rfl
  · intro hnonempty hnodup
    rw [hpassIff]
    constructor
    · intro hquorum
      obtain ⟨s, hs⟩ := List.exists_mem_of_ne_nil _ hnonempty
      simpa [List.count_eq_one_of_mem hnodup hs] using hquorum s hs
    · intro hquorum s hs
      apply le_mul_count hs hquorum
  · intro hratio hleast
    have hquorum := quorum_le hratio hleast
    use hquorum
    apply hpassIff.2
    intro s hs
    apply le_mul_count hs hquorum

end Unanimous

/-- Three passing rounds of which the first has the median time, the second the median rate and
the third the median latency. -/
def spreadMetrics : List (Metrics ℚ) := [⟨120, 9, 40, 5⟩, ⟨110, 7, 44, 5⟩, ⟨100, 8, 30, 5⟩]

/-- Those rounds pass with medians that are of no round. -/
theorem exists_finalVerdict_of_unanimous_lone :
  ∃ h v, loneHistory spreadMetrics = .ok h
    ∧ h.medians "lone".toList = .ofMetrics { rps := 110, p99 := 8, cpu := 40, rss := 5 }
    ∧ finalVerdict h loneBaseline lonePolicy = .ok v ∧ v.pass = true
  := by
  have hbase : ∀ s ∈ ["lone".toList], ∃ base, Table.get? s loneBaseline = some base ∧ 0 < base.rps
      ∧ 0 ≤ base.cpuCost := by
    intro s hs
    obtain rfl := List.mem_singleton.1 hs
    refine ⟨_, rfl, ?_⟩
    decide +kernel
  have hscores : ∀ m ∈ spreadMetrics, scoresTrue loneBaseline lonePolicy.memoryLimitKb "lone".toList
      [("lone".toList, m)] = true := by
    decide +kernel
  have hpass : ∀ s ∈ ["lone".toList], ∀ round ∈ spreadMetrics.map fun m => [("lone".toList, m)],
      scoresTrue loneBaseline lonePolicy.memoryLimitKb s round = true := by
    intro s hs round hround
    obtain rfl := List.mem_singleton.1 hs
    obtain ⟨m, hm, rfl⟩ := List.mem_map.1 hround
    apply hscores m hm
  obtain ⟨h, v, hh, hv, -, -, hiff, -⟩ :=
    exists_finalVerdict_of_unanimous (List.cons_ne_nil _ _) hbase hpass
  obtain ⟨h', hh', -, -, -, hmetrics⟩ := exists_loneHistory spreadMetrics
  obtain rfl := Except.ok.inj (hh.symm.trans hh')
  refine ⟨h, v, hh, ?_, hv, (hiff (by simp) (by simp)).2 (by decide +kernel)⟩
  simp only [History.medians, History.series_eq_map_metricsOf, hmetrics]
  decide +kernel

/-- With a quorum of two, one round is enough if there is no scenario, or if its only scenario is
listed twice. -/
theorem pass_of_quorum_of_two :
  quorum 1 lonePolicy.minPassRatio (some 2) = 2
    ∧ (∃ h v, History.ofRounds [] lonePolicy.memoryLimitKb [] [[]] = .ok h
        ∧ finalVerdict h [] { lonePolicy with minPassRounds := some 2 } = .ok v ∧ v.pass = true)
    ∧ scoresTrue loneBaseline lonePolicy.memoryLimitKb "lone".toList
        [("lone".toList, ⟨120, 7, 40, 5⟩)] = true
    ∧ (∃ h v, History.ofRounds loneBaseline lonePolicy.memoryLimitKb ["lone".toList, "lone".toList]
          [[("lone".toList, ⟨120, 7, 40, 5⟩)]] = .ok h
        ∧ finalVerdict h loneBaseline { lonePolicy with minPassRounds := some 2 } = .ok v
        ∧ v.pass = true)
  := by
  refine ⟨by decide +kernel, ⟨_, _, rfl, rfl, rfl⟩, by decide +kernel, ⟨_, _, rfl, rfl, ?_⟩⟩
  decide +kernel

end PerfGate
