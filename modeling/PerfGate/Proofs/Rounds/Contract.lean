import PerfGate.Proofs.Rounds.Loop

/-!
# The contract of a gate

What a gate does for every behaviour of its source: whether it starts, which calls it makes,
what ends it, and which rounds its verdict is about.  A round of the gate is recorded and
scored for every scenario (`advances_gateRound`); the loops are those of any run.
-/

namespace PerfGate

namespace History

variable {h : History Binary64} {scenarios : List ScenarioName}
  {entries : List (Int × Round Binary64)} {outcomes outcomes' : ScenarioName → List Bool}

theorem Holds.congr (hh : h.Holds scenarios entries outcomes)
    (heq : ∀ s ∈ scenarios, outcomes s = outcomes' s) :
  h.Holds scenarios entries outcomes'
  := by
  constructor
  · apply hh.scenarios_eq
  · apply hh.rounds_eq
  · intro s hs
    rw [hh.get?_tracks s hs, heq s hs]
  · apply hh.get?_tracks_foreign

/-- Scoring a round for some of the scenarios adds one outcome to each of these. -/
theorem Holds.foldlM_addOutcome {b : Baseline Binary64} {round : Round Binary64}
    {todo : List ScenarioName} (hh : h.Holds scenarios entries outcomes) (memoryLimitKb : Int)
    (hb : Covers b scenarios) (hround : Covers round scenarios) (htodo : todo ⊆ scenarios)
    (hnodup : todo.Nodup) :
  ∃ h', todo.foldlM
      (fun h s =>
        match Table.get? s round, Table.get? s b with
        | some metrics, some base => h.addOutcome s (roundPasses metrics base memoryLimitKb)
        | _, _ => .ok h)
      h = .ok h'
    ∧ h'.Holds scenarios entries fun s =>
        if s ∈ todo then outcomes s ++ [scoresTrue b memoryLimitKb s round] else outcomes s
  := by
  induction todo generalizing h outcomes with
  | nil =>
    use h, rfl
    simpa using hh
  | cons s todo ih =>
    obtain ⟨hs, hnodup⟩ := List.nodup_cons.1 hnodup
    obtain ⟨hmem, htodo⟩ := List.cons_subset.1 htodo
    obtain ⟨metrics, hmetrics⟩ := hround.get? hmem
    obtain ⟨base, hbase⟩ := hb.get? hmem
    have hscore : scoresTrue b memoryLimitKb s round = roundPasses metrics base memoryLimitKb := by
      rw [scoresTrue, hmetrics, hbase]
    obtain ⟨h', hadd, hh'⟩ := hh.addOutcome hmem (scoresTrue b memoryLimitKb s round)
    obtain ⟨h'', hrest, hh''⟩ := ih hh' htodo hnodup
    use h''
    constructor
    · rw [List.foldlM_cons, hmetrics, hbase]
      dsimp only
      rw [← hscore, hadd]
      apply hrest
    · apply hh''.congr
      intro n hn
      by_cases hns : n = s
      · subst hns
        simp [hs]
      · simp [hns]

/-- Scoring a round adds one outcome to each scenario. -/
theorem Holds.scoreAll (hh : h.Holds scenarios entries outcomes) (hnodup : scenarios.Nodup)
    {b : Baseline Binary64} (memoryLimitKb : Int) {round : Round Binary64}
    (hb : Covers b scenarios) (hround : Covers round scenarios) :
  ∃ h', PerfGate.scoreAll b memoryLimitKb round h = .ok h'
    ∧ h'.Holds scenarios entries fun s => outcomes s ++ [scoresTrue b memoryLimitKb s round]
  := by
  obtain ⟨h', hfold, hh'⟩ :=
    hh.foldlM_addOutcome memoryLimitKb hb hround (List.Subset.refl _) hnodup
  use h'
  constructor
  · rw [PerfGate.scoreAll, hh.scenarios_eq]
    apply hfold
  · apply hh'.congr
    intro s hs
    rw [if_pos hs]

end History

namespace Trial

variable {answer : Behaviour} {scenarios : List ScenarioName} {b : Baseline Binary64}
  {p : Policy Binary64} {disk : Disk}

/-- The history that a gate has after some rounds: all of them recorded and scored. -/
def Scored (b : Baseline Binary64) (memoryLimitKb : Int) (scenarios : List ScenarioName)
    (rounds : List (Round Binary64)) (h : History Binary64) : Prop :=
  h.Holds scenarios (numbered rounds) fun s => rounds.map (scoresTrue b memoryLimitKb s)

/-- Whether some scenario's request rate varies more than allowed over rounds. -/
def Noisy (maxVariation : Binary64) (scenarios : List ScenarioName)
    (rounds : List (Round Binary64)) : Prop :=
  ∃ s ∈ scenarios,
    Scalar.lt maxVariation (Stats.variation (History.valuesOf s (·.rps) rounds)) = true

theorem Scored.isNoisy_iff {memoryLimitKb : Int} {maxVariation : Binary64}
    {rounds : List (Round Binary64)} {h : History Binary64}
    (hh : Scored b memoryLimitKb scenarios rounds h) :
  isNoisy h maxVariation = true ↔ Noisy maxVariation scenarios rounds
  := by
  rw [isNoisy, hh.scenarios_eq, List.any_eq_true]
  constructor
  · rintro ⟨s, hs, hlt⟩
    rw [hh.series_eq hs, map_snd_numbered] at hlt
    use s, hs, hlt
  · rintro ⟨s, hs, hlt⟩
    use s, hs
    rw [hh.series_eq hs, map_snd_numbered]
    apply hlt

/-- A round of a gate leads from each stage to the next, or ends the run, if every round of the
scenarios can be recorded and scored. -/
theorem advances_gateRound_of {recorded : List (Round Binary64) → History Binary64 → Prop}
    (hscenarios : ∀ rounds h, recorded rounds h → h.scenarios = scenarios)
    (hjudged : ∀ rounds h round, recorded rounds h → Covers round scenarios → ∃ h' h'',
      h.record (rounds.length + 1) round = .ok h'
        ∧ scoreAll b p.memoryLimitKb round h' = .ok h'' ∧ recorded (rounds ++ [round]) h'') :
  Advances answer p.plannedRounds scenarios recorded disk (gateRound (source answer) b p)
  := by
  intro rounds h t hstage
  apply (hstage.ends_announceRound _).bind
  rintro round t' ⟨hanswer, hcalls, hdisk⟩
  cases hlack : firstLacking? round scenarios with
  | some s =>
    rw [History.record_eq_error _ (hscenarios rounds h hstage.recorded ▸ hlack)]
    apply ends_fail
    use hstage.answered, .inr ⟨round, s, hanswer, hlack, rfl⟩
  | none =>
    have hround : Covers round scenarios := firstLacking?_eq_none_iff.1 hlack
    obtain ⟨h', h'', hrecord, hscore, hh''⟩ := hjudged rounds h round hstage.recorded hround
    rw [hrecord]
    show t'.Ends (ofExcept .round (PerfGate.scoreAll b p.memoryLimitKb round h')) _ _
    rw [hscore]
    apply ends_pure
    use round
    constructor
    · apply hstage.answered.concat hanswer hround
    · apply hh''
    · rw [hcalls, List.length_append, List.length_singleton]
    · apply hdisk

/-- So a round leads from a history of scored rounds to one with its own scores. -/
theorem advances_gateRound (hnodup : scenarios.Nodup) (hb : Covers b scenarios) :
  Advances answer p.plannedRounds scenarios (Scored b p.memoryLimitKb scenarios) disk
    (gateRound (source answer) b p)
  := by
  apply advances_gateRound_of
  · intro rounds h hh
    apply hh.scenarios_eq
  · intro rounds h round hh hround
    obtain ⟨h', hrecord, hh'⟩ := hh.record hnodup (rounds.length + 1) hround
    obtain ⟨h'', hscore, hh''⟩ := hh'.scoreAll hnodup p.memoryLimitKb hb hround
    use h', h'', hrecord, hscore
    rw [← numbered_concat] at hh''
    apply hh''.congr
    intro s _
    rw [List.map_append, List.map_singleton]

/-! ### The whole run -/

/-- In range, no wrapping changes the largest number of rounds. -/
theorem maxRounds_eq (hplanned : 1 ≤ p.plannedRounds) (hextra : 0 ≤ p.maxExtraRounds)
    (hmost : p.plannedRounds + p.maxExtraRounds < 0x80000000) :
  p.maxRounds = p.plannedRounds + p.maxExtraRounds
  := by
  unfold Policy.maxRounds wrap32
  apply Int.bmod_eq_of_le
  · omega
  · omega

/-- A gate whose rounds lead from stage to stage decides over the least number of rounds, or is
broken by its last call. -/
theorem Advances.ends_judgeRounds {recorded : List (Round Binary64) → History Binary64 → Prop}
    {noisy : List (Round Binary64) → Prop}
    {decided : List (Round Binary64) → Verdict Binary64 → Prop}
    (hrun : Advances answer p.plannedRounds scenarios recorded {} (gateRound (source answer) b p))
    (hb : Covers b scenarios) (hstart : recorded [] (.start scenarios))
    (hnoisy : ∀ rounds h, recorded rounds h → (isNoisy h p.maxVariation = true ↔ noisy rounds))
    (hdecided : ∀ rounds h, recorded rounds h →
      ∃ v, finalVerdict h b p = .ok v ∧ decided rounds v)
    (hplanned : 1 ≤ p.plannedRounds) (hextra : 0 ≤ p.maxExtraRounds)
    (hmost : p.plannedRounds + p.maxExtraRounds < 0x80000000) :
  Ends {} (judgeRounds (source answer) scenarios b p)
    (fun v t => ∃ rounds, t.calls = callsUpTo p.plannedRounds rounds.length
      ∧ Answered answer p.plannedRounds scenarios rounds
      ∧ IsLeast (stops p.plannedRounds (p.plannedRounds + p.maxExtraRounds) noisy rounds)
          rounds.length
      ∧ decided rounds v)
    (Broken answer p.plannedRounds scenarios {})
  := by
  have hmax := maxRounds_eq hplanned hextra hmost
  have hstage : Stage answer p.plannedRounds scenarios recorded {} [] (.start scenarios) {} :=
    ⟨Answered.nil, hstart, rfl, rfl⟩
  have hrequire : Baseline.requireAll scenarios b = .ok () := by
    rw [Baseline.requireAll_eq, firstLacking?_eq_none_iff.2 hb]
  unfold judgeRounds
  rw [hrequire]
  apply ends_pure_bind
  apply ((hrun.ends_runPlanned hstage (n := p.plannedRounds.toNat)
    (by simp; omega)).mono (fun _ _ h => h)
    fun _ _ ⟨rounds, _, hbroken⟩ => ⟨rounds, hbroken⟩).bind
  rintro h t ⟨rounds, hlength, hstage'⟩
  have hdone : (rounds.length : Int) = p.plannedRounds := by
    rw [hlength, List.length_nil]
    omega
  rw [if_neg (show ¬p.plannedRounds < 1 by omega)]
  have hleft : (rounds.length : Int) + p.extraAllowance = p.maxRounds := by
    rw [Policy.extraAllowance]
    omega
  have hextras := hrun.ends_runExtra hnoisy hstage' hleft (by omega) (fun n hn hlt => by omega)
  rw [hdone, hmax] at hextras
  apply hextras.bind
  rintro h' t' ⟨rounds', hstage'', hleast⟩
  obtain ⟨v, hv, hverdict⟩ := hdecided rounds' h' hstage''.recorded
  dsimp only
  rw [hv]
  apply ends_pure
  refine ⟨rounds', hstage''.calls_eq, hstage''.answered, hleast, hverdict⟩

/-- A gate whose baseline covers the scenarios decides over the rounds it was answered with. -/
theorem ends_judgeRounds (answer : Behaviour) (hnodup : scenarios.Nodup)
    (hb : Covers b scenarios) (hplanned : 1 ≤ p.plannedRounds) (hextra : 0 ≤ p.maxExtraRounds)
    (hmost : p.plannedRounds + p.maxExtraRounds < 0x80000000) :
  Ends {} (judgeRounds (source answer) scenarios b p)
    (fun v t => ∃ rounds, t.calls = callsUpTo p.plannedRounds rounds.length
      ∧ Answered answer p.plannedRounds scenarios rounds
      ∧ IsLeast (stops p.plannedRounds (p.plannedRounds + p.maxExtraRounds)
          (Noisy p.maxVariation scenarios) rounds) rounds.length
      ∧ Decides b p scenarios rounds v)
    (Broken answer p.plannedRounds scenarios {})
  := by
  apply (advances_gateRound hnodup hb).ends_judgeRounds hb (History.holds_start scenarios)
  · intro rounds h hh
    apply hh.isNoisy_iff
  · intro rounds h hh
    apply hh.exists_decides hb
  · apply hplanned
  · apply hextra
  · apply hmost

/-- A round with a given request rate. -/
def rated (rps : Int) : Round Binary64 :=
  [("idle".toList, { rps := .ofInt rps, p99 := .ofInt 250, cpu := .ofInt 7, rss := .ofInt 4 })]

/-- The entry that a round with a rate of 100 equals. -/
def idleBaseline : Baseline Binary64 :=
  [("idle".toList,
    .ofMetrics { rps := .ofInt 100, p99 := .ofInt 250, cpu := .ofInt 7, rss := .ofInt 4 })]

/-- A source whose rate doubles from the first round to the second, and is between them from the
third round on. -/
def settling : Behaviour := fun calls =>
  .ok (rated (if calls.length = 1 then 100 else if calls.length = 2 then 200 else 150))

/-- Two planned rounds and two extra ones. -/
def twoPlanned : Policy Binary64 where
  plannedRounds := 2
  minPassRatio := .ofInt 1
  minPassRounds := none
  maxVariation := .ofInt 30
  maxExtraRounds := 2
  duration := "10s".toList
  memoryLimitKb := 1000

/-- How a gate with that source ends. -/
def settled : Except Failure (Verdict Binary64) × Trial :=
  perform (judgeRounds (source settling) ["idle".toList] idleBaseline twoPlanned) {}

end Trial

end PerfGate
