import PerfGate.Proofs.Verdict
import PerfGate.Rounds

/-!
# A run as one loop

The planned rounds and the extra ones of a gate are one loop, whose target its body raises: behind
each round it is asked whether the run goes on, and a target that is not reached is not raised.  So
the planned rounds are run first, and the extra rounds are those of a loop that is asked at its
target each time (`judgeRounds_eq_runToTarget`).
-/

namespace PerfGate

section

variable {m : Type → Type} [Monad m] [Console m]
  (run : Int → Int → History Binary64 → m (History Binary64)) (p : Policy Binary64)

/-- Runs the rounds behind round `done` up to a target, which is raised by one behind a round if
the run has to go on. -/
def runToTarget (done target : Int) (h : History Binary64) : m (History Binary64) :=
  if target ≤ done then pure h
  else do
    let h ← run (done + 1) target h
    if hgoes : goesOn (done + 1) target p h = true then do
      say (extensionLine p.maxVariation (target + 1))
      runToTarget (done + 1) (target + 1) h
    else runToTarget (done + 1) target h
-- a raised target is at most the largest number of rounds, so that one round is left less
termination_by (max target p.maxRounds - done).toNat
decreasing_by
  · have := goesOn_iff.1 hgoes
    omega
  · omega

variable {run p}

theorem runToTarget_of_le {done target : Int} (hle : target ≤ done) (h : History Binary64) :
  runToTarget run p done target h = pure h
  := by
  rw [runToTarget, if_pos hle]

/-- The last round of a target, behind which it is raised or the loop ends. -/
theorem runToTarget_succ (done : Int) (h : History Binary64) :
  runToTarget run p done (done + 1) h = (do
    let h ← run (done + 1) (done + 1) h
    if goesOn (done + 1) (done + 1) p h then do
      say (extensionLine p.maxVariation (done + 1 + 1))
      runToTarget run p (done + 1) (done + 1 + 1) h
    else pure h)
  := by
  rw [runToTarget, if_neg (by omega)]
  congr 1
  funext h
  by_cases hgoes : goesOn (done + 1) (done + 1) p h = true
  · rw [if_pos hgoes, dif_pos hgoes]
  · rw [if_neg hgoes, dif_neg hgoes, runToTarget_of_le (Int.le_refl _)]

/-- The extra rounds are those of a target that was reached: it is raised, or the loop ends. -/
theorem runExtra_eq {left : Nat} {done : Int} (hleft : left = (p.maxRounds - done).toNat)
    (h : History Binary64) :
  runExtra run p left done h =
    if goesOn done done p h then do
      say (extensionLine p.maxVariation (done + 1))
      runToTarget run p done (done + 1) h
    else pure h
  := by
  induction left generalizing done h with
  | zero =>
    have hends : ¬ goesOn done done p h = true := by
      intro hgoes
      obtain ⟨hlast, hlt, -⟩ := goesOn_iff.1 hgoes
      omega
    rw [runExtra, if_neg hends]
  | succ left ih =>
    rw [runExtra]
    congr 2
    funext
    rw [runToTarget_succ]
    congr 1
    funext h'
    apply ih (by omega)

variable [LawfulMonad m]

/-- A target that is not reached is not raised; so the rounds up to it are the planned ones, and
the extra ones are behind them. -/
theorem runToTarget_eq {n left : Nat} {done target : Int} (hn : done + (n + 1) = target)
    (hleft : left = (p.maxRounds - target).toNat) (h : History Binary64) :
  runToTarget run p done target h =
    runPlanned run target (n + 1) done h >>= runExtra run p left target
  := by
  induction n generalizing done h with
  | zero =>
    obtain rfl : done + 1 = target := by omega
    rw [runToTarget_succ, runPlanned, bind_assoc]
    congr 1
    funext h'
    rw [runPlanned, pure_bind, runExtra_eq hleft]
  | succ n ih =>
    rw [runToTarget, if_neg (by omega), runPlanned, bind_assoc]
    congr 1
    funext h'
    have hends : ¬ goesOn (done + 1) target p h' = true := by
      intro hgoes
      obtain ⟨hlast, hlt, -⟩ := goesOn_iff.1 hgoes
      omega
    rw [dif_neg hends, ih (by omega)]

end

variable {m : Type → Type} [Monad m] [LawfulMonad m] [MonadExceptOf Failure m] [Console m]

/-- A gate runs its rounds as one loop, which starts with the planned rounds as its target. -/
theorem judgeRounds_eq_runToTarget (source : RoundProducer m) (scenarios : List ScenarioName)
    (b : Baseline Binary64) (p : Policy Binary64) :
  judgeRounds source scenarios b p = (do
    ofExcept .baseline (Baseline.requireAll scenarios b)
    let h ← runToTarget (gateRound source b p) p 0 p.plannedRounds (.start scenarios)
    ofExcept .baseline (finalVerdict h b p))
  := by
  unfold judgeRounds
  congr 1
  funext
  dsimp only
  by_cases hplanned : p.plannedRounds < 1
  · have hnone : p.plannedRounds.toNat = 0 := by omega
    rw [runToTarget_of_le (by omega), hnone, runPlanned, pure_bind, if_pos hplanned]
  · obtain ⟨n, hn⟩ : ∃ n, p.plannedRounds.toNat = n + 1 := ⟨p.plannedRounds.toNat - 1, by omega⟩
    rw [runToTarget_eq (n := n) (by omega) rfl, hn, bind_assoc]
    simp only [if_neg hplanned]
    rfl

end PerfGate
