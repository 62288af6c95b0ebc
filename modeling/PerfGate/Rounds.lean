import PerfGate.Baseline.Entry
import PerfGate.Host
import PerfGate.Verdict

/-!
# The round loop

A gate runs its planned rounds, and then one more for as long as the request rate varies too
much and extra rounds are left.  A recut runs its planned rounds and no more.  A round
source is any monadic function of the index of the round, from one, and the number of
rounds aimed at.
-/

namespace PerfGate

/-- A source of rounds: it is given the index of the round and the number of rounds aimed
at. -/
abbrev RoundProducer (m : Type → Type) := Int → Int → m (Round Binary64)

/-- Records how a round scored for each scenario. -/
def scoreAll (b : Baseline Binary64) (memoryLimitKb : Int) (round : Round Binary64)
    (h : History Binary64) : Except RoundError (History Binary64) :=
  h.scenarios.foldlM
    (fun h s =>
      match Table.get? s round, Table.get? s b with
      | some metrics, some base => h.addOutcome s (roundPasses metrics base memoryLimitKb)
      | _, _ => .ok h)
    h

/-- The line that announces a round. -/
def roundLine (label : Text) (index target : Int) : Text :=
  label ++ " round ".toList ++ Decimal.signed index ++ '/' :: Decimal.signed target ++ ['\n']

/-- The line that announces an extension. -/
def extensionLine (maxVariation : Binary64) (target : Int) : Text :=
  "[gate] detected high RPS jitter (CV > ".toList ++ maxVariation.fixed 1 ++
    "%), extending to ".toList ++ Decimal.signed target ++ " rounds\n".toList

/-- The number of extra rounds that a policy allows. -/
def Policy.extraAllowance {α : Type} (p : Policy α) : Nat := (p.maxRounds - p.plannedRounds).toNat

variable {m : Type → Type} [Monad m] [MonadExceptOf Failure m] [Console m]

/-- Announces a round and runs it. -/
def announceRound (label : Text) (source : RoundProducer m) (index target : Int) :
    m (Round Binary64) := do
  say (roundLine label index target)
  source index target

/-- Runs a round of a gate: it is recorded and scored. -/
def gateRound (source : RoundProducer m) (b : Baseline Binary64) (p : Policy Binary64)
    (index target : Int) (h : History Binary64) : m (History Binary64) := do
  let round ← announceRound "[gate]".toList source index target
  let h ← ofExcept .round (h.record index round)
  ofExcept .round (scoreAll b p.memoryLimitKb round h)

/-- Runs a round of a recut: it is recorded. -/
def recutRound (source : RoundProducer m) (index target : Int) (h : History Binary64) :
    m (History Binary64) := do
  let round ← announceRound "[baseline]".toList source index target
  ofExcept .round (h.record index round)

omit [MonadExceptOf Failure m] [Console m] in
/-- Runs `n` rounds behind round `done`, all of them aiming at `target`. -/
def runPlanned (run : Int → Int → History Binary64 → m (History Binary64)) (target : Int) :
    (n : Nat) → (done : Int) → History Binary64 → m (History Binary64)
  | 0, _, h => pure h
  | n + 1, done, h => do runPlanned run target n (done + 1) (← run (done + 1) target h)

omit [MonadExceptOf Failure m] in
/-- Runs extra rounds behind round `done`, at most `left`, while the run has to go on. -/
def runExtra (run : Int → Int → History Binary64 → m (History Binary64)) (p : Policy Binary64) :
    (left : Nat) → (done : Int) → History Binary64 → m (History Binary64)
  | 0, _, h => pure h
  | left + 1, done, h =>
    if goesOn done done p h then do
      say (extensionLine p.maxVariation (done + 1))
      runExtra run p left (done + 1) (← run (done + 1) (done + 1) h)
    else pure h

/-- Runs the rounds of a gate and decides.  The baseline is checked before any round. -/
def judgeRounds (source : RoundProducer m) (scenarios : List ScenarioName) (b : Baseline Binary64)
    (p : Policy Binary64) : m (Verdict Binary64) := do
  ofExcept .baseline (Baseline.requireAll scenarios b)
  let run := gateRound source b p
  let h ← runPlanned run p.plannedRounds p.plannedRounds.toNat 0 (.start scenarios)
  let h ← if p.plannedRounds < 1 then pure h
    else runExtra run p p.extraAllowance p.plannedRounds h
  ofExcept .baseline (finalVerdict h b p)

/-- Runs a number of rounds without scoring them. -/
def recordRounds (source : RoundProducer m) (scenarios : List ScenarioName) (rounds : Int) :
    m (History Binary64) :=
  runPlanned (recutRound source) rounds rounds.toNat 0 (.start scenarios)

end PerfGate
