import PerfGate.Proofs.Config
import PerfGate.Proofs.Config.Loaded
import PerfGate.Proofs.Rounds.Contract

/-!
# The cap of an extension

Extra rounds end at the planned rounds plus the largest number of extra ones.  Each of the two is
a 32-bit word when it is loaded, and their sum is calculated in one, which is checked nowhere.  If
the sum is a word, the cap is the sum.  If it is none, the cap is negative, so that no round is
ever extended, whatever number of extra rounds was asked for.
-/

namespace PerfGate

/-- Whether the planned rounds and the extra ones add up to a 32-bit word. -/
def Policy.CapFits {α : Type} (p : Policy α) : Prop :=
  p.plannedRounds + p.maxExtraRounds < 0x80000000

/-- Whether the rounds of a policy are in the range that configurations allow. -/
structure Policy.Loaded {α : Type} (p : Policy α) : Prop where
  /-- There is a planned round at least. -/
  planned_pos : 1 ≤ p.plannedRounds
  /-- The number of planned rounds is a word. -/
  planned_lt : p.plannedRounds < 0x80000000
  /-- The number of extra rounds is not negative. -/
  extra_nonneg : 0 ≤ p.maxExtraRounds
  /-- It is a word. -/
  extra_lt : p.maxExtraRounds < 0x80000000

/-- The rounds of loaded settings are in the range that configurations allow. -/
theorem Config.loaded_of_load {env : Environment} {base c : Config} (hbase : base.Fits)
    (h : Config.load env base = .ok c) :
  c.policy.Loaded
  := by
  obtain ⟨⟨hwords, -, -⟩, hvalid⟩ := fits_of_load hbase h
  have hconstraints := constraints_of_validate hvalid
  simp only [constraints, List.forall_mem_cons, decide_eq_true_eq] at hconstraints
  obtain ⟨hplanned, -, -, -, hextra, -⟩ := hconstraints
  simp only [words, List.forall_mem_cons, inRange32, Bool.and_eq_true, decide_eq_true_eq] at hwords
  obtain ⟨⟨-, hplanned'⟩, ⟨-, hextra'⟩, -⟩ := hwords
  use hplanned, hplanned', hextra, hextra'

namespace Policy

variable {α : Type} {p : Policy α}

/-- A sum that is no word is calculated as a negative number. -/
theorem Loaded.maxRounds_eq_of_not_capFits (hp : p.Loaded) (hcap : ¬p.CapFits) :
  p.maxRounds = p.plannedRounds + p.maxExtraRounds - 0x100000000
  := by
  obtain ⟨hplanned, hplanned', hextra, hextra'⟩ := hp
  unfold CapFits at hcap
  rw [maxRounds, wrap32, Int.bmod_def]
  omega

theorem Loaded.maxRounds_neg (hp : p.Loaded) (hcap : ¬p.CapFits) :
  p.maxRounds < 0
  := by
  rw [hp.maxRounds_eq_of_not_capFits hcap]
  have := hp.planned_lt
  have := hp.extra_lt
  omega

/-- Whether a run is extended as the cap says: behind its last round, if the rate varies too much
and there are fewer rounds than planned and extra ones together. -/
def ExtendsToCap (p : Policy Binary64) : Prop :=
  ∀ (round : Int) (h : History Binary64), goesOn round round p h = true ↔
    round < p.plannedRounds + p.maxExtraRounds ∧ isNoisy h p.maxVariation = true

/-- If the cap leaves no extra round, a run is that of a policy without extra rounds. -/
theorem Loaded.judgeRounds_eq {p : Policy Binary64} (hp : p.Loaded) (hnone : p.extraAllowance = 0)
    {m : Type → Type} [Monad m] [MonadExceptOf Failure m] [Console m] (source : RoundProducer m)
    (scenarios : List ScenarioName) (b : Baseline Binary64) :
  judgeRounds source scenarios b p =
    judgeRounds source scenarios b { p with maxExtraRounds := 0 }
  := by
  let p' : Policy Binary64 := { p with maxExtraRounds := 0 }
  have hsum' : p'.maxRounds = p.plannedRounds + 0 := by
    apply Trial.maxRounds_eq (p := p') hp.planned_pos (le_refl 0)
    simpa [p'] using hp.planned_lt
  have hnone' : p'.extraAllowance = 0 := by
    rw [extraAllowance, hsum']
    simp [p']
  unfold judgeRounds
  rw [hnone, hnone']
  rfl

end Policy

/-- The cap of loaded settings is the sum of the planned and the extra rounds exactly if that sum
is a word.  Then runs are extended as the cap says, and otherwise they are never extended. -/
theorem maxRounds_eq_iff_of_load {env : Environment} {base c : Config} (hbase : base.Fits)
    (hload : Config.load env base = .ok c) :
  (c.policy.maxRounds = c.policy.plannedRounds + c.policy.maxExtraRounds ↔ c.policy.CapFits)
    ∧ (c.policy.CapFits →
        c.policy.ExtendsToCap ∧ (c.policy.extraAllowance : Int) = c.policy.maxExtraRounds)
    ∧ (¬c.policy.CapFits →
        (∀ (round : Int) (h : History Binary64), 0 ≤ round → goesOn round round c.policy h = false)
          ∧ ∀ (m : Type → Type) [Monad m] [MonadExceptOf Failure m] [Console m]
              (source : RoundProducer m) (scenarios : List ScenarioName) (b : Baseline Binary64),
            judgeRounds source scenarios b c.policy =
              judgeRounds source scenarios b { c.policy with maxExtraRounds := 0 })
  := by
  have hp := Config.loaded_of_load hbase hload
  have hextra := hp.extra_nonneg
  have hpos := hp.planned_pos
  have hsum : c.policy.CapFits →
      c.policy.maxRounds = c.policy.plannedRounds + c.policy.maxExtraRounds :=
    Trial.maxRounds_eq hpos hextra
  constructor
  · use fun heq => ?_, hsum
    by_contra hcap
    have hneg := hp.maxRounds_neg hcap
    omega
  · constructor
    · intro hcap
      constructor
      · intro round h
        rw [goesOn_iff, hsum hcap, and_iff_right rfl]
      · rw [Policy.extraAllowance, hsum hcap]
        omega
    · intro hcap
      have hneg := hp.maxRounds_neg hcap
      constructor
      · intro round h hround
        rw [Bool.eq_false_iff, Ne, goesOn_iff]
        rintro ⟨-, hlt, -⟩
        omega
      · intro m _ _ _ source scenarios b
        apply hp.judgeRounds_eq
        rw [Policy.extraAllowance]
        omega

/-- With the standard settings, runs are extended up to twelve rounds. -/
theorem maxRounds_eq_iff_of_load_default :
  ({} : Config).Fits ∧ Config.load (fun _ => none) {} = .ok {}
    ∧ ({} : Config).policy.maxRounds = 12 ∧ ({} : Config).policy.ExtendsToCap
  := by
  have hload : Config.load (fun _ => none) {} = .ok {} := by decide +kernel
  have hcap : ({} : Config).policy.CapFits := by
    unfold Policy.CapFits
    decide
  obtain ⟨hsum, hfits, -⟩ := maxRounds_eq_iff_of_load Config.fits_default hload
  use Config.fits_default, hload, hsum.2 hcap, (hfits hcap).1

/-- An environment that asks for two rounds and as many extra ones as can be. -/
def greedy : Environment :=
  .ofEntries ["ROUNDS=2".toList, "MAX_EXTRA_ROUNDS=2147483647".toList]

/-- The settings of that environment. -/
def greedyConfig : Config where
  policy := { Policy.standard with plannedRounds := 2, maxExtraRounds := 2147483647 }

namespace Trial

/-- A source whose rate rises by a hundred with each call. -/
def rising : Behaviour := fun calls => .ok (rated (100 * calls.length))

/-- The settings are loaded, the rate of the first two rounds varies too much, and the cap is not
reached, but there is no third round. -/
theorem calls_of_greedy :
  Config.load greedy {} = .ok greedyConfig
    ∧ Answered rising 2 ["idle".toList] [rated 100, rated 200]
    ∧ Noisy greedyConfig.policy.maxVariation ["idle".toList] [rated 100, rated 200]
    ∧ 2 < greedyConfig.policy.plannedRounds + greedyConfig.policy.maxExtraRounds
    ∧ greedyConfig.policy.maxRounds = -2147483647
    ∧ (perform (judgeRounds (source rising) ["idle".toList] idleBaseline greedyConfig.policy)
        {}).2.calls = [(1, 2), (2, 2)]
  := by
  have hcovers : ∀ rps, Covers (rated rps) ["idle".toList] := by
    intro rps s hs
    obtain rfl := List.mem_singleton.1 hs
    rfl
  refine ⟨by decide +kernel, ?_, ?_, by decide, by decide, by decide +kernel⟩
  · apply (Answered.nil.concat rfl (hcovers 100)).concat rfl (hcovers 200)
  · use "idle".toList, List.mem_singleton_self _
    decide +kernel

end Trial

end PerfGate
