import PerfGate.Proofs.Stats.Majority
import PerfGate.Proofs.Verdict.Monotone

/-!
# A majority of rounds that fail in one metric fails the run

The verdict compares medians, and a median goes with the majority of its values.  So if in more
than half of the rounds a scenario is below its recorded rate, then its median rate is so, too, and
the run does not pass, however many rounds were run and whatever quorum is asked for; likewise for
the latency and for the memory (`majority_decides`).  The vote is taken metric by metric: most
rounds may fail, one in its rate and another in its latency, and the run still pass
(`pass_of_mixed_failures`).
-/

namespace PerfGate

section Run

variable {b : Baseline ℚ} {p : Policy ℚ} {memoryLimitKb : Int} {scenarios : List ScenarioName}
  {rounds : List (Round ℚ)} {h : History ℚ} {s : ScenarioName}

/-- What holds of a metric in more than half of the rounds holds of more than half of the values of
its series. -/
theorem History.Judged.majority_series (hh : h.Judged b memoryLimitKb scenarios rounds)
    (hrounds : ∀ round ∈ rounds, Covers round scenarios) (hs : s ∈ scenarios)
    (metric : Metrics ℚ → ℚ) (told : ℚ → Bool)
    (hmajority : rounds.length < 2 * roundsWhere s (told ∘ metric) rounds) :
  (h.series s metric).length < 2 * (h.series s metric).countP told
  := by
  have hlisted : 0 < scenarios.count s := List.count_pos_iff.2 hs
  have hmany := Nat.mul_lt_mul_of_pos_left hmajority hlisted
  rw [h.series_eq_map_metricsOf, List.length_map, List.countP_map, hh.length_metricsOf hrounds hs,
    hh.countP_metricsOf hs]
  calc rounds.length * scenarios.count s
    _ = scenarios.count s * rounds.length := Nat.mul_comm ..
    _ < scenarios.count s * (2 * roundsWhere s (told ∘ metric) rounds) := hmany
    _ = 2 * (scenarios.count s * roundsWhere s (told ∘ metric) rounds) := Nat.mul_left_comm ..

/-- Whether in more than half of the rounds a scenario is below its recorded rate, or in more than
half of them above its recorded latency, or in more than half of them above the memory limit.
Rounds that fail in different respects do not add up (`pass_of_mixed_failures`). -/
def Regresses (base : BaselineFigures ℚ) (memoryLimitKb : Int) (s : ScenarioName)
    (rounds : List (Round ℚ)) : Prop :=
  rounds.length < 2 * roundsWhere s (fun m : Metrics ℚ => m.rps < base.rps) rounds
    ∨ rounds.length < 2 * roundsWhere s (fun m : Metrics ℚ => base.p99 < m.p99) rounds
    ∨ rounds.length < 2 * roundsWhere s (fun m : Metrics ℚ => memoryLimitKb < m.rss) rounds

/-- A policy that is content with one passing round of three. -/
def lenientPolicy : Policy ℚ := { lonePolicy with minPassRatio := 1 / 4, minPassRounds := none }

/-- A round that fails in its rate, one that fails in its latency, and one that passes. -/
def mixedRounds : List (Round ℚ) :=
  [⟨90, 7, 30, 5⟩, ⟨120, 10, 30, 5⟩, ⟨120, 7, 30, 5⟩].map fun m => [("lone".toList, m)]

/-- Two rounds of three are below the recorded rate of 100 or above the recorded latency of 9, one
of them each, and the run passes with the medians 120 and 7. -/
theorem pass_of_mixed_failures :
  mixedRounds.length < 2 * roundsWhere "lone".toList
      (fun m : Metrics ℚ => m.rps < 100 || 9 < m.p99 || lenientPolicy.memoryLimitKb < m.rss)
      mixedRounds
    ∧ ∃ h v, History.ofRounds loneBaseline lenientPolicy.memoryLimitKb ["lone".toList] mixedRounds
          = .ok h
        ∧ finalVerdict h loneBaseline lenientPolicy = .ok v ∧ v.pass = true
  := by
  refine ⟨by decide +kernel, _, _, rfl, rfl, ?_⟩
  decide +kernel

/-- A scenario that regresses does not pass. -/
theorem History.Judged.pass_ne_true (hh : h.Judged b p.memoryLimitKb scenarios rounds)
    (hrounds : ∀ round ∈ rounds, Covers round scenarios) (hs : s ∈ scenarios)
    {base : BaselineFigures ℚ} (hregresses : Regresses base p.memoryLimitKb s rounds)
    (required : Int) :
  (scenarioFinding h p required s base).pass ≠ true
  := by
  intro hpass
  obtain ⟨hrate, hlatency, -, hmemory, -⟩ := Checks.ofMedians_all_iff.1 hpass
  rcases hregresses with hmajority | hmajority | hmajority
  · have hseries := hh.majority_series hrounds hs (·.rps) (· < base.rps) hmajority
    apply (Stats.median_lt_of_majority hseries).not_ge hrate
  · have hseries := hh.majority_series hrounds hs (·.p99) (base.p99 < ·) hmajority
    apply (Stats.lt_median_of_majority hseries).not_ge hlatency
  · have hseries := hh.majority_series hrounds hs (·.rss) (p.memoryLimitKb < ·) hmajority
    apply (Stats.lt_median_of_majority hseries).not_ge hmemory

end Run

/-- A median does not depend on the order of the values, and it is at least, or at most, what a
majority of them is: exactly so for an odd number of values, and up to a tie for an even one.  So a
run in which a scenario regresses for one metric in more than half of the rounds has a verdict, and
that is not to pass. -/
theorem majority_decides :
  (∀ (values : List ℚ) (c : ℚ), values ≠ [] →
      (∀ others : List ℚ, others.Perm values → Stats.median others = Stats.median values)
      ∧ (values.length % 2 = 1 →
          (c ≤ Stats.median values ↔ (values.length + 1) / 2 ≤ values.countP (c ≤ ·))
          ∧ (Stats.median values ≤ c ↔ (values.length + 1) / 2 ≤ values.countP (· ≤ c)))
      ∧ (values.length % 2 = 0 →
          (values.length / 2 + 1 ≤ values.countP (c ≤ ·) → c ≤ Stats.median values)
          ∧ (c ≤ Stats.median values → values.length / 2 ≤ values.countP (c ≤ ·))
          ∧ (values.length / 2 + 1 ≤ values.countP (· ≤ c) → Stats.median values ≤ c)
          ∧ (Stats.median values ≤ c → values.length / 2 ≤ values.countP (· ≤ c))))
    ∧ (∀ (b : Baseline ℚ) (p : Policy ℚ) (scenarios : List ScenarioName) (rounds : List (Round ℚ)),
        Covers b scenarios → (∀ round ∈ rounds, Covers round scenarios) →
        (∃ s ∈ scenarios, ∃ base, Table.get? s b = some base
          ∧ Regresses base p.memoryLimitKb s rounds) →
        ∃ h v, History.ofRounds b p.memoryLimitKb scenarios rounds = .ok h
          ∧ finalVerdict h b p = .ok v ∧ v.pass = false)
  := by
  constructor
  · intro values c hne
    refine ⟨fun others hperm => Stats.median_congr hperm, ?_, ?_⟩
    · intro hodd
      refine ⟨⟨Stats.half_of_le_median hne, ?_⟩, ⟨Stats.half_of_median_le hne, ?_⟩⟩
      · intro hmany
        apply Stats.le_median_of_majority
        omega
      · intro hmany
        apply Stats.median_le_of_majority
        omega
    · intro heven
      refine ⟨Stats.le_median_of_majority, ?_, Stats.median_le_of_majority, ?_⟩
      · intro hle
        have hhalf := Stats.half_of_le_median hne hle
        omega
      · intro hle
        have hhalf := Stats.half_of_median_le hne hle
        omega
  · rintro b p scenarios rounds hb hrounds ⟨s, hs, base, hbase, hregresses⟩
    obtain ⟨h, hh, hjudged⟩ := History.exists_ofRounds b p.memoryLimitKb hrounds
    obtain ⟨v, hv, -⟩ := hjudged.exists_finalVerdict hb
    refine ⟨h, v, hh, hv, ?_⟩
    rw [Bool.eq_false_iff]
    intro hpass
    obtain ⟨base', hbase', hfinding⟩ :=
      (finalVerdict_pass_iff hv).1 hpass s (hjudged.scenarios_eq ▸ hs)
    obtain rfl := Option.some.inj (hbase.symm.trans hbase')
    apply hjudged.pass_ne_true hrounds hs hregresses _ hfinding

/-- Two rounds below the recorded rate and one that passes, which is as many as are asked for. -/
def slowRounds : List (Round ℚ) :=
  [⟨90, 9, 30, 5⟩, ⟨120, 7, 40, 5⟩, ⟨95, 8, 30, 5⟩].map fun m => [("lone".toList, m)]

/-- The votes of three and of four values, and the slow rounds, which fail their run although its
quorum is met. -/
theorem majority_decides_slow :
  Stats.median [(3 : ℚ), 1, 2] = Stats.median [1, 2, 3]
    ∧ (2 ≤ Stats.median [(1 : ℚ), 2, 3] ↔ 2 ≤ [(1 : ℚ), 2, 3].countP (2 ≤ ·))
    ∧ (Stats.median [(1 : ℚ), 2, 3, 9] ≤ 5 / 2 → 2 ≤ [(1 : ℚ), 2, 3, 9].countP (· ≤ 5 / 2))
    ∧ quorum 3 lenientPolicy.minPassRatio lenientPolicy.minPassRounds = 1
    ∧ ∃ h v, History.ofRounds loneBaseline lenientPolicy.memoryLimitKb ["lone".toList] slowRounds
          = .ok h
        ∧ finalVerdict h loneBaseline lenientPolicy = .ok v ∧ v.pass = false
  := by
  have hslow : slowRounds.length <
      2 * roundsWhere "lone".toList (fun m => decide (m.rps < 100)) slowRounds := by
    decide +kernel
  have hperm : [(3 : ℚ), 1, 2].Perm [1, 2, 3] := by decide +kernel
  obtain ⟨hvotes, hruns⟩ := majority_decides
  obtain ⟨horder, hodd, -⟩ := hvotes [1, 2, 3] 2 (List.cons_ne_nil _ _)
  obtain ⟨-, -, heven⟩ := hvotes [1, 2, 3, 9] (5 / 2) (List.cons_ne_nil _ _)
  refine ⟨horder _ hperm, (hodd rfl).1, (heven rfl).2.2.2, by decide +kernel, ?_⟩
  apply hruns loneBaseline lenientPolicy ["lone".toList] slowRounds covers_loneBaseline
    (covers_lone _)
  refine ⟨"lone".toList, List.mem_singleton_self _, _, rfl, .inl ?_⟩
  apply hslow

end PerfGate
