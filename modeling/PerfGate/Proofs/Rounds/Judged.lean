import PerfGate.Proofs.Rounds.Contract
import PerfGate.Proofs.Verdict.Judged

/-!
# The verdict of a run is one over judged rounds

A run of a gate decides over the history of the rounds its source answered with, judged one after
the other (`Trial.ends_judgeRounds_ofRounds`).  So what holds of every history of judged rounds
holds of every run, also if a scenario is listed several times.
-/

namespace PerfGate

namespace Trial

variable {answer : Behaviour} {scenarios : List ScenarioName} {b : Baseline Binary64}
  {p : Policy Binary64} {disk : Disk}

/-- The history that a gate has after some rounds: they were judged. -/
def IsOfRounds (b : Baseline Binary64) (memoryLimitKb : Int) (scenarios : List ScenarioName)
    (rounds : List (Round Binary64)) (h : History Binary64) : Prop :=
  History.ofRounds b memoryLimitKb scenarios rounds = .ok h
    ∧ History.Judged b memoryLimitKb scenarios rounds h

/-- Whether some scenario's request rate varies more than allowed in the history of judged
rounds. -/
def NoisyOfRounds (b : Baseline Binary64) (p : Policy Binary64) (scenarios : List ScenarioName)
    (rounds : List (Round Binary64)) : Prop :=
  ∃ h, History.ofRounds b p.memoryLimitKb scenarios rounds = .ok h
    ∧ isNoisy h p.maxVariation = true

theorem IsOfRounds.isNoisy_iff {rounds : List (Round Binary64)} {h : History Binary64}
    (hh : IsOfRounds b p.memoryLimitKb scenarios rounds h) :
  isNoisy h p.maxVariation = true ↔ NoisyOfRounds b p scenarios rounds
  := by
  constructor
  · intro hnoisy
    use h, hh.1, hnoisy
  · rintro ⟨h', hh', hnoisy⟩
    obtain rfl := Except.ok.inj (hh.1.symm.trans hh')
    apply hnoisy

/-- A gate judges each round. -/
theorem IsOfRounds.exists_gateRound {memoryLimitKb : Int} {rounds : List (Round Binary64)}
    {h : History Binary64} (hh : IsOfRounds b memoryLimitKb scenarios rounds h)
    (hb : Covers b scenarios) {round : Round Binary64} (hround : Covers round scenarios) :
  ∃ h' h'', h.record (rounds.length + 1) round = .ok h'
    ∧ scoreAll b memoryLimitKb round h' = .ok h''
    ∧ IsOfRounds b memoryLimitKb scenarios (rounds ++ [round]) h''
  := by
  obtain ⟨hfold, hjudged⟩ := hh
  obtain ⟨h'', hjudge, hjudged'⟩ := hjudged.exists_judge (rounds.length + 1) hround
  have hfold' := History.ofRounds_concat hfold round
  rw [hjudge] at hfold'
  rw [← History.record_bind_scoreAll (hjudged.scenarios_eq ▸ hb)] at hjudge
  obtain ⟨h', hrecord, hscore⟩ := exists_ok_of_bind_eq_ok hjudge
  exact ⟨h', h'', hrecord, hscore, hfold', hjudged'⟩

theorem advances_gateRound_ofRounds (hb : Covers b scenarios) :
  Advances answer p.plannedRounds scenarios (IsOfRounds b p.memoryLimitKb scenarios) disk
    (gateRound (source answer) b p)
  := by
  apply advances_gateRound_of
  · intro rounds h hh
    apply hh.2.scenarios_eq
  · intro rounds h round hh hround
    apply hh.exists_gateRound hb hround

/-- A gate whose baseline covers the scenarios decides over the history of the rounds it was
answered with, judged one after the other, or is broken by its last call. -/
theorem ends_judgeRounds_ofRounds (answer : Behaviour) (hb : Covers b scenarios)
    (hplanned : 1 ≤ p.plannedRounds) (hextra : 0 ≤ p.maxExtraRounds)
    (hmost : p.plannedRounds + p.maxExtraRounds < 0x80000000) :
  Ends {} (judgeRounds (source answer) scenarios b p)
    (fun v t => ∃ rounds, t.calls = callsUpTo p.plannedRounds rounds.length
      ∧ Answered answer p.plannedRounds scenarios rounds
      ∧ IsLeast (stops p.plannedRounds (p.plannedRounds + p.maxExtraRounds)
          (NoisyOfRounds b p scenarios) rounds) rounds.length
      ∧ ∃ h, History.ofRounds b p.memoryLimitKb scenarios rounds = .ok h
          ∧ finalVerdict h b p = .ok v)
    (Broken answer p.plannedRounds scenarios {})
  := by
  apply (advances_gateRound_ofRounds hb).ends_judgeRounds hb
  · exact ⟨rfl, History.judged_start⟩
  · intro rounds h hh
    apply hh.isNoisy_iff
  · intro rounds h hh
    obtain ⟨v, hv, -⟩ := hh.2.exists_finalVerdict hb
    use v, hv, h, hh.1
  · apply hplanned
  · apply hextra
  · apply hmost

end Trial

end PerfGate
