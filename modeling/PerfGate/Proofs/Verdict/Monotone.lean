import PerfGate.Proofs.Stats.Order
import PerfGate.Proofs.Verdict.Judged

/-!
# A better run passes too

In exact numbers, a run passes whenever one does that is no better in any round.  Its medians are
no worse, for a median does not fall if no value does; its processor cost is no higher, for the
median time is not and the median rate is no lower; and it has no fewer passing rounds.  The rounds
of the two runs can be matched in any order, for each scenario in its own.
-/

namespace PerfGate

/-! ### Better metrics -/

/-- Whether metrics are at least as good as others in every respect. -/
structure Metrics.NoWorse (m' m : Metrics ℚ) : Prop where
  /-- The rate is no lower. -/
  rps_le : m.rps ≤ m'.rps
  /-- The p99 latency is no higher. -/
  p99_le : m'.p99 ≤ m.p99
  /-- The processor time is no higher. -/
  cpu_le : m'.cpu ≤ m.cpu
  /-- The memory is no more. -/
  rss_le : m'.rss ≤ m.rss

theorem cpuCost_of_pos {cpu rps : ℚ} (hrps : 0 < rps) :
  cpuCost cpu rps = cpu * 1000 / rps
  := by
  unfold cpuCost
  rw [if_neg (fun hzero => hrps.ne' (Exact.isZero_iff.1 hzero))]
  rfl

/-- The processor cost does not rise if the time does not and the rate does not fall. -/
theorem cpuCost_le_cpuCost {cpu cpu' rps rps' : ℚ} (hcpu : 0 ≤ cpu) (hcpu' : cpu' ≤ cpu)
    (hrps : 0 < rps) (hrps' : rps ≤ rps') :
  cpuCost cpu' rps' ≤ cpuCost cpu rps
  := by
  rw [cpuCost_of_pos hrps, cpuCost_of_pos (hrps.trans_le hrps')]
  apply div_le_div₀ (by linarith) (by linarith) hrps hrps'

theorem roundPasses_iff {m : Metrics ℚ} {base : BaselineFigures ℚ} {memoryLimitKb : Int} :
  roundPasses m base memoryLimitKb = true ↔
    base.rps ≤ m.rps ∧ m.p99 ≤ base.p99 ∧ cpuCost m.cpu m.rps ≤ base.cpuCost
      ∧ m.rss ≤ memoryLimitKb
  := by
  simp only [roundPasses, Bool.and_eq_true, Exact.le_iff, Exact.ofInt_eq, and_assoc]

/-- A round that is no worse than a passing one passes. -/
theorem Metrics.NoWorse.roundPasses {m m' : Metrics ℚ} (h : m'.NoWorse m) (hcpu : 0 ≤ m.cpu)
    {base : BaselineFigures ℚ} (hbase : 0 < base.rps) {memoryLimitKb : Int}
    (hpass : PerfGate.roundPasses m base memoryLimitKb = true) :
  PerfGate.roundPasses m' base memoryLimitKb = true
  := by
  obtain ⟨hrps, hp99, hcost, hrss⟩ := roundPasses_iff.1 hpass
  have hcost' := cpuCost_le_cpuCost hcpu h.cpu_le (hbase.trans_le hrps) h.rps_le
  apply roundPasses_iff.2
  use hrps.trans h.rps_le, h.p99_le.trans hp99, hcost'.trans hcost, h.rss_le.trans hrss

/-! ### What a passing scenario meets -/

section Findings

variable {h : History ℚ} {b : Baseline ℚ} {p : Policy ℚ}

theorem Checks.ofMedians_all_iff {m : Medians ℚ} {base : BaselineFigures ℚ} {memoryLimitKb : Int}
    {quorum : Bool} :
  (Checks.ofMedians m base memoryLimitKb quorum).all = true ↔
    base.rps ≤ m.rps ∧ m.p99 ≤ base.p99 ∧ m.cpuCost ≤ base.cpuCost ∧ m.rss ≤ memoryLimitKb
      ∧ quorum = true
  := by
  simp only [Checks.all, Checks.ofMedians, Bool.and_eq_true, Exact.le_iff, Exact.ofInt_eq, and_assoc]

theorem all_pass_iff {α : Type} {b : Baseline α}
    {finding : ScenarioName → BaselineFigures α → ScenarioFinding α} {scenarios : List ScenarioName}
    {findings : List (ScenarioFinding α)}
    (h : List.Forall₂ (fun s f => ∃ base, Table.get? s b = some base ∧ f = finding s base)
      scenarios findings) :
  findings.all (·.pass) = true ↔
    ∀ s ∈ scenarios, ∃ base, Table.get? s b = some base ∧ (finding s base).pass = true
  := by
  induction h with
  | nil => simp
  | cons hhead _ ih =>
    obtain ⟨base, hbase, rfl⟩ := hhead
    rw [List.all_cons, Bool.and_eq_true, ih, List.forall_mem_cons, hbase]
    simp

/-- A history has a verdict only if the baseline covers its scenarios. -/
theorem covers_of_finalVerdict {α : Type} [Scalar α] {h : History α} {b : Baseline α}
    {p : Policy α} {v : Verdict α} (hv : finalVerdict h b p = .ok v) :
  Covers b h.scenarios
  := by
  intro s hs
  obtain ⟨f, hf⟩ := exists_ok_of_mapM_bind hv s hs
  rw [Table.has]
  cases hget : Table.get? s b with
  | none =>
    rw [hget] at hf
    cases hf
  | some base => rfl

/-- A verdict passes exactly if each scenario does. -/
theorem finalVerdict_pass_iff {α : Type} [Scalar α] {h : History α} {b : Baseline α}
    {p : Policy α} {v : Verdict α} (hv : finalVerdict h b p = .ok v) :
  v.pass = true ↔ ∀ s ∈ h.scenarios, ∃ base, Table.get? s b = some base
    ∧ (scenarioFinding h p (quorum h.rounds p.minPassRatio p.minPassRounds) s base).pass = true
  := by
  obtain ⟨v', hv', -, -, hneeded, hpass, hfindings⟩ :=
    exists_finalVerdict p (covers_of_finalVerdict hv)
  obtain rfl := Except.ok.inj (hv.symm.trans hv')
  rw [hpass, ← hneeded]
  apply all_pass_iff hfindings

/-! ### Better histories -/

/-- Whether the metrics of each scenario, in some order, are one by one no worse than those of
another history. -/
def History.NoWorse (h' h : History ℚ) : Prop :=
  ∀ s ∈ h.scenarios, ∃ matched, matched.Perm (h.metricsOf s)
    ∧ List.Forall₂ Metrics.NoWorse (h'.metricsOf s) matched

section Matched

variable {h' : History ℚ} {s : ScenarioName} {matched : List (Metrics ℚ)} {f : Metrics ℚ → ℚ}

theorem median_series_le_of_matched (hperm : matched.Perm (h.metricsOf s))
    (hle : List.Forall₂ (fun x y => f x ≤ f y) (h'.metricsOf s) matched) :
  Stats.median (h'.series s f) ≤ Stats.median (h.series s f)
  := by
  rw [History.series_eq_map_metricsOf, History.series_eq_map_metricsOf,
    ← Stats.median_congr (hperm.map f)]
  apply Stats.median_le_median
  rw [List.forall₂_map_left_iff, List.forall₂_map_right_iff]
  apply hle

theorem median_series_ge_of_matched (hperm : matched.Perm (h.metricsOf s))
    (hge : List.Forall₂ (fun x y => f y ≤ f x) (h'.metricsOf s) matched) :
  Stats.median (h.series s f) ≤ Stats.median (h'.series s f)
  := by
  rw [History.series_eq_map_metricsOf, History.series_eq_map_metricsOf,
    ← Stats.median_congr (hperm.map f)]
  apply Stats.median_le_median
  rw [List.forall₂_map_left_iff, List.forall₂_map_right_iff]
  apply hge.flip

end Matched

/-- A scenario that passes still does with metrics that are no worse. -/
theorem scenarioFinding_pass_of_noWorse {h' : History ℚ} {s : ScenarioName}
    (hs : s ∈ h.scenarios) (hs' : s ∈ h'.scenarios) {base : BaselineFigures ℚ}
    (hget : Table.get? s b = some base) (hbase : 0 < base.rps)
    (hscored : h.IsScored b p.memoryLimitKb) (hscored' : h'.IsScored b p.memoryLimitKb)
    (hcpu : ∀ m ∈ h.metricsOf s, 0 ≤ m.cpu) (hbetter : h'.NoWorse h) {required : Int}
    (hpass : (scenarioFinding h p required s base).pass = true) :
  (scenarioFinding h' p required s base).pass = true
  := by
  obtain ⟨matched, hperm, hmatched⟩ := hbetter s hs
  obtain ⟨hrps, hp99, hcost, hrss, hquorum⟩ := Checks.ofMedians_all_iff.1 hpass
  have hcpu' : 0 ≤ Stats.median (h.series s (·.cpu)) := by
    apply Stats.median_nonneg
    intro v hv
    rw [h.series_eq_map_metricsOf] at hv
    obtain ⟨m, hm, rfl⟩ := List.mem_map.1 hv
    apply hcpu m hm
  -- each series of the better history against that of the other one
  have hrps' : (h.medians s).rps ≤ (h'.medians s).rps := by
    apply median_series_ge_of_matched hperm (hmatched.imp fun _ _ hm => hm.rps_le)
  have hp99' : (h'.medians s).p99 ≤ (h.medians s).p99 := by
    apply median_series_le_of_matched hperm (hmatched.imp fun _ _ hm => hm.p99_le)
  have htime : (h'.medians s).cpu ≤ (h.medians s).cpu := by
    apply median_series_le_of_matched hperm (hmatched.imp fun _ _ hm => hm.cpu_le)
  have hrss' : (h'.medians s).rss ≤ (h.medians s).rss := by
    apply median_series_le_of_matched hperm (hmatched.imp fun _ _ hm => hm.rss_le)
  have hcost' : (h'.medians s).cpuCost ≤ (h.medians s).cpuCost :=
    cpuCost_le_cpuCost hcpu' htime (hbase.trans_le hrps) hrps'
  have htally : h.passTally s ≤ h'.passTally s := by
    have hboth : List.Forall₂ (fun m m' => 0 ≤ m.cpu ∧ m'.NoWorse m) matched (h'.metricsOf s) := by
      apply (List.forall₂_and_left _ _).2
      use fun m hm => hcpu m (hperm.mem_iff.1 hm), hmatched.flip
    rw [hscored.passTally_eq hs hget, hscored'.passTally_eq hs' hget, ← hperm.countP_eq]
    apply Stats.countP_le_of_forall₂
    apply List.Forall₂.flip
    apply hboth.imp
    rintro m m' ⟨hm, hworse⟩ hround
    apply hworse.roundPasses hm hbase hround
  apply Checks.ofMedians_all_iff.2
  refine ⟨hrps.trans hrps', hp99'.trans hp99, hcost'.trans hcost, hrss'.trans hrss, ?_⟩
  have hrequired : required ≤ h.passTally s := of_decide_eq_true hquorum
  apply decide_eq_true
  omega

/-! ### Rearranged histories -/

/-- What is found of a scenario does not depend on the order of its metrics. -/
theorem scenarioFinding_congr {h' : History ℚ} {s : ScenarioName} (hs : s ∈ h.scenarios)
    (hs' : s ∈ h'.scenarios) {base : BaselineFigures ℚ} (hget : Table.get? s b = some base)
    (hrounds : h'.rounds = h.rounds) (hscored : h.IsScored b p.memoryLimitKb)
    (hscored' : h'.IsScored b p.memoryLimitKb) (hperm : (h'.metricsOf s).Perm (h.metricsOf s))
    (required : Int) :
  scenarioFinding h' p required s base = scenarioFinding h p required s base
  := by
  have hseries : ∀ metric, (h'.series s metric).Perm (h.series s metric) := by
    intro metric
    rw [History.series_eq_map_metricsOf, History.series_eq_map_metricsOf]
    apply hperm.map
  have hmedians : h'.medians s = h.medians s := by
    unfold History.medians
    rw [Stats.median_congr (hseries _), Stats.median_congr (hseries _),
      Stats.median_congr (hseries _), Stats.median_congr (hseries _)]
  have htally : h'.passTally s = h.passTally s := by
    rw [hscored.passTally_eq hs hget, hscored'.passTally_eq hs' hget, hperm.countP_eq]
  unfold scenarioFinding
  rw [hmedians, htally, hrounds, Stats.variation_congr (hseries _)]

/-- The verdict over a scored history is kept by a history that is no worse, and it is the same
for one that has the same metrics in another order. -/
theorem finalVerdict_mono {h' : History ℚ} (hscenarios : h'.scenarios = h.scenarios)
    (hrounds : h'.rounds = h.rounds) (hscored : h.IsScored b p.memoryLimitKb)
    (hscored' : h'.IsScored b p.memoryLimitKb) :
  ((∀ s ∈ h.scenarios, ∀ base, Table.get? s b = some base → 0 < base.rps) →
    (∀ s ∈ h.scenarios, ∀ m ∈ h.metricsOf s, 0 ≤ m.cpu) → h'.NoWorse h →
    ∀ v, finalVerdict h b p = .ok v → v.pass = true →
      ∃ v', finalVerdict h' b p = .ok v' ∧ v'.pass = true)
    ∧ ((∀ s ∈ h.scenarios, (h'.metricsOf s).Perm (h.metricsOf s)) →
      finalVerdict h' b p = finalVerdict h b p)
  := by
  constructor
  · intro hbase hcpu hbetter v hv hpass
    have hb : Covers b h'.scenarios := hscenarios ▸ covers_of_finalVerdict hv
    obtain ⟨v', hv', -⟩ := exists_finalVerdict p hb
    use v', hv'
    apply (finalVerdict_pass_iff hv').2
    intro s hs'
    have hs : s ∈ h.scenarios := hscenarios ▸ hs'
    obtain ⟨base, hget, hfinding⟩ := (finalVerdict_pass_iff hv).1 hpass s hs
    use base, hget
    rw [hrounds]
    apply scenarioFinding_pass_of_noWorse hs hs' hget (hbase s hs base hget) hscored hscored'
      (hcpu s hs) hbetter hfinding
  · intro hperm
    unfold finalVerdict
    dsimp only
    rw [hscenarios, hrounds, mapM_congr]
    intro s hs
    cases hget : Table.get? s b with
    | none => rfl
    | some base =>
      dsimp only
      rw [scenarioFinding_congr hs (hscenarios ▸ hs) hget hrounds hscored hscored' (hperm s hs)]

end Findings

/-- What one scenario is held against. -/
def loneBaseline : Baseline ℚ :=
  [("lone".toList, .ofMetrics { rps := 100, p99 := 9, cpu := 40, rss := 5 })]

/-- Two planned rounds, one of which has to pass. -/
def lonePolicy : Policy ℚ where
  plannedRounds := 2
  minPassRatio := 1 / 2
  minPassRounds := some 1
  maxVariation := 5
  maxExtraRounds := 0
  duration := "10s".toList
  memoryLimitKb := 8

theorem covers_loneBaseline :
  Covers loneBaseline ["lone".toList]
  := by
  intro s hs
  obtain rfl := List.mem_singleton.1 hs
  rfl

theorem covers_lone (metrics : List (Metrics ℚ)) :
  ∀ round ∈ metrics.map fun m => [("lone".toList, m)], Covers round ["lone".toList]
  := by
  intro round hround s hs
  obtain ⟨m, -, rfl⟩ := List.mem_map.1 hround
  obtain rfl := List.mem_singleton.1 hs
  rfl

/-- The history of judged rounds of that scenario. -/
def loneHistory (metrics : List (Metrics ℚ)) : Except RoundError (History ℚ) :=
  History.ofRounds loneBaseline lonePolicy.memoryLimitKb ["lone".toList]
    (metrics.map fun m => [("lone".toList, m)])

theorem exists_loneHistory (metrics : List (Metrics ℚ)) :
  ∃ h, loneHistory metrics = .ok h ∧ h.scenarios = ["lone".toList] ∧ h.rounds = metrics.length
    ∧ h.IsScored loneBaseline lonePolicy.memoryLimitKb ∧ h.metricsOf "lone".toList = metrics
  := by
  obtain ⟨h, hh, hjudged⟩ :=
    History.exists_ofRounds loneBaseline lonePolicy.memoryLimitKb (covers_lone metrics)
  use h, hh, hjudged.scenarios_eq
  constructor
  · rw [hjudged.rounds_eq, List.length_map]
  · use hjudged.isScored
    have hget : metrics.filterMap (Table.get? "lone".toList ∘ fun m => [("lone".toList, m)]) =
        metrics := List.filterMap_some
    rw [hjudged.metricsOf_eq _ (List.mem_singleton_self _), List.filterMap_map, hget,
      List.count_singleton_self]
    apply List.flatMap_singleton'

/-- Two rounds of which the second passes, two that are no worse in the opposite order, and the
first two in the opposite order. -/
theorem finalVerdict_mono_lone :
  ∃ h h' h'' v v', loneHistory [⟨90, 9, 30, 5⟩, ⟨120, 7, 40, 5⟩] = .ok h
    ∧ loneHistory [⟨130, 7, 39, 4⟩, ⟨95, 8, 30, 5⟩] = .ok h'
    ∧ loneHistory [⟨120, 7, 40, 5⟩, ⟨90, 9, 30, 5⟩] = .ok h''
    ∧ h'.NoWorse h ∧ finalVerdict h loneBaseline lonePolicy = .ok v ∧ v.pass = true
    ∧ finalVerdict h' loneBaseline lonePolicy = .ok v' ∧ v'.pass = true
    ∧ finalVerdict h'' loneBaseline lonePolicy = .ok v
  := by
  have hpass : ((loneHistory [⟨90, 9, 30, 5⟩, ⟨120, 7, 40, 5⟩]).toOption.bind fun h =>
      (finalVerdict h loneBaseline lonePolicy).toOption.map (·.pass)) = some true := by
    decide +kernel
  obtain ⟨h, hh, hscenarios, hrounds, hscored, hmetrics⟩ :=
    exists_loneHistory [⟨90, 9, 30, 5⟩, ⟨120, 7, 40, 5⟩]
  obtain ⟨h', hh', hscenarios', hrounds', hscored', hmetrics'⟩ :=
    exists_loneHistory [⟨130, 7, 39, 4⟩, ⟨95, 8, 30, 5⟩]
  obtain ⟨h'', hh'', hscenarios'', hrounds'', hscored'', hmetrics''⟩ :=
    exists_loneHistory [⟨120, 7, 40, 5⟩, ⟨90, 9, 30, 5⟩]
  rw [hh] at hpass
  obtain ⟨v, hv, hpass⟩ : ∃ v, finalVerdict h loneBaseline lonePolicy = .ok v ∧ v.pass = true := by
    cases hv : finalVerdict h loneBaseline lonePolicy with
    | error e => simp [hv, Except.toOption] at hpass
    | ok v => exact ⟨v, rfl, by simpa [hv, Except.toOption] using hpass⟩
  have hbetter : h'.NoWorse h := by
    intro s hs
    rw [hscenarios] at hs
    obtain rfl := List.mem_singleton.1 hs
    rw [hmetrics, hmetrics']
    use [⟨120, 7, 40, 5⟩, ⟨90, 9, 30, 5⟩], List.Perm.swap _ _ _
    refine .cons ?_ (.cons ?_ .nil)
    · constructor <;> norm_num
    · constructor <;> norm_num
  obtain ⟨hmono, -⟩ := finalVerdict_mono
    (hscenarios'.trans hscenarios.symm) (hrounds'.trans hrounds.symm) hscored hscored'
  obtain ⟨-, hperm⟩ := finalVerdict_mono
    (hscenarios''.trans hscenarios.symm) (hrounds''.trans hrounds.symm) hscored hscored''
  obtain ⟨v', hv', hpass'⟩ := hmono
    (by
      intro s hs base hbase
      rw [hscenarios] at hs
      obtain rfl := List.mem_singleton.1 hs
      obtain rfl := Option.some.inj hbase
      show (0 : ℚ) < 100
      norm_num)
    (by
      intro s hs m hm
      rw [hscenarios] at hs
      obtain rfl := List.mem_singleton.1 hs
      rw [hmetrics] at hm
      revert m
      decide +kernel)
    hbetter v hv hpass
  refine ⟨h, h', h'', v, v', hh, hh', hh'', hbetter, hv, hpass, hv', hpass', ?_⟩
  rw [hperm, hv]
  intro s hs
  rw [hscenarios] at hs
  obtain rfl := List.mem_singleton.1 hs
  rw [hmetrics, hmetrics'']
  apply List.Perm.swap

end PerfGate
