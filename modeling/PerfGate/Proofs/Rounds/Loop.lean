import Mathlib.Order.Bounds.Defs
import Mathlib.Tactic.Use
import PerfGate.Proofs.Trial
import PerfGate.Proofs.Verdict

/-!
# The loops of a run

A run calls its source for one round after the other.  `Stage` says where a run stands between
two rounds: the calls it has made, the rounds they were answered with, and the history that
came of them.  `Broken` says where it stands when a call has ended it.  If one round leads from
a stage to the next (`Advances`), so do the planned rounds, and so do the extra ones, which
stop at the first number of rounds at which they may.
-/

namespace PerfGate

namespace Trial

/-- The first calls of a run: one for each round, which aims at the planned rounds or, behind
those, at itself. -/
def callsUpTo (planned : Int) (n : Nat) : List (Int × Int) :=
  (List.range n).map fun i : Nat => ((i : Int) + 1, max planned (i + 1))

theorem callsUpTo_succ (planned : Int) (n : Nat) :
  callsUpTo planned (n + 1) = callsUpTo planned n ++ [((n : Int) + 1, max planned (n + 1))]
  := by
  simp [callsUpTo, List.range_succ]

variable (answer : Behaviour) (planned : Int) (scenarios : List ScenarioName)

/-- Whether the first calls are answered with these rounds, all of them with every scenario. -/
def Answered (rounds : List (Round Binary64)) : Prop :=
  ∀ n round, rounds[n]? = some round →
    answer (callsUpTo planned (n + 1)) = .ok round ∧ Covers round scenarios

/-- Whether call number `n` ends a run: it fails, or the round it returns lacks a scenario. -/
def Breaks (n : Nat) (e : Failure) : Prop :=
  answer (callsUpTo planned n) = .error e ∨
    ∃ round s, answer (callsUpTo planned n) = .ok round ∧ firstLacking? round scenarios = some s
      ∧ e = .gate (.round (.sampleMissing n s))

variable (recorded : List (Round Binary64) → History Binary64 → Prop) (disk : Disk)

/-- Where a run stands between two rounds. -/
structure Stage (rounds : List (Round Binary64)) (h : History Binary64) (t : Trial) : Prop where
  /-- The calls so far were answered with these rounds. -/
  answered : Answered answer planned scenarios rounds
  /-- The history is what came of them. -/
  recorded : recorded rounds h
  /-- There was one call for each round. -/
  calls_eq : t.calls = callsUpTo planned rounds.length
  /-- The disk is as it was. -/
  disk_eq : t.disk = disk

/-- Where a run stands that the call behind these rounds has ended, and with what error. -/
def BrokenBehind (rounds : List (Round Binary64)) (e : Failure) (t : Trial) : Prop :=
  Answered answer planned scenarios rounds
    ∧ Breaks answer planned scenarios (rounds.length + 1) e
    ∧ t.calls = callsUpTo planned (rounds.length + 1)
    ∧ t.disk = disk

/-- Where a run stands that a call has ended, and with what error. -/
def Broken (e : Failure) (t : Trial) : Prop :=
  ∃ rounds, BrokenBehind answer planned scenarios disk rounds e t

/-- Whether one round leads from each stage to the next, or ends the run. -/
def Advances (run : Int → Int → History Binary64 → TrialRun (History Binary64)) : Prop :=
  ∀ rounds h t, Stage answer planned scenarios recorded disk rounds h t →
    t.Ends (run (rounds.length + 1) (max planned (rounds.length + 1)) h)
      (fun h' t' => ∃ round,
        Stage answer planned scenarios recorded disk (rounds ++ [round]) h' t')
      (BrokenBehind answer planned scenarios disk rounds)

variable {answer planned scenarios recorded disk}
variable {rounds : List (Round Binary64)} {h : History Binary64} {t : Trial}

theorem Answered.nil : Answered answer planned scenarios [] := by
  intro n round hround
  simp at hround

theorem Answered.concat (hrounds : Answered answer planned scenarios rounds)
    {round : Round Binary64}
    (hround : answer (callsUpTo planned (rounds.length + 1)) = .ok round)
    (hcovers : Covers round scenarios) :
  Answered answer planned scenarios (rounds ++ [round])
  := by
  intro n r hr
  rcases Nat.lt_or_ge n rounds.length with hn | hn
  · rw [List.getElem?_append_left hn] at hr
    apply hrounds n r hr
  · rw [List.getElem?_append_right hn, List.getElem?_singleton] at hr
    split at hr
    · rename_i hn'
      obtain rfl : n = rounds.length := by omega
      obtain rfl := Option.some.inj hr
      use hround, hcovers
    · simp at hr

theorem Stage.print (hstage : Stage answer planned scenarios recorded disk rounds h t)
    (words : Text) :
  Stage answer planned scenarios recorded disk rounds h (t.print words)
  := ⟨hstage.answered, hstage.recorded, hstage.calls_eq, hstage.disk_eq⟩

/-- Announcing and calling: the next call is made, and its failure ends the run. -/
theorem Stage.ends_announceRound (hstage : Stage answer planned scenarios recorded disk rounds h t)
    (label : Text) :
  t.Ends
    (announceRound label (source answer) (rounds.length + 1) (max planned (rounds.length + 1)))
    (fun round t' => answer (callsUpTo planned (rounds.length + 1)) = .ok round
      ∧ t'.calls = callsUpTo planned (rounds.length + 1) ∧ t'.disk = disk)
    (BrokenBehind answer planned scenarios disk rounds)
  := by
  have hcalls : (t.print (roundLine label (rounds.length + 1) (max planned (rounds.length + 1)))).calls
      ++ [((rounds.length : Int) + 1, max planned ((rounds.length : Int) + 1))]
      = callsUpTo planned (rounds.length + 1) := by
    rw [calls_print, hstage.calls_eq, callsUpTo_succ]
  apply ends_say_bind
  apply ends_source
  · intro round hround
    rw [hcalls] at hround
    use hround
    constructor
    · rw [calls_note, hcalls]
    · rw [disk_note, disk_print, hstage.disk_eq]
  · intro e he
    rw [hcalls] at he
    use hstage.answered, .inl he
    constructor
    · rw [calls_note, hcalls]
    · rw [disk_note, disk_print, hstage.disk_eq]

variable {run : Int → Int → History Binary64 → TrialRun (History Binary64)}

/-- The planned rounds lead to the stage behind them, or one of them ends the run. -/
theorem Advances.ends_runPlanned (hrun : Advances answer planned scenarios recorded disk run)
    {n : Nat} (hstage : Stage answer planned scenarios recorded disk rounds h t)
    (hle : (rounds.length : Int) + n ≤ planned) :
  t.Ends (runPlanned run planned n rounds.length h)
    (fun h' t' => ∃ rounds', rounds'.length = rounds.length + n
      ∧ Stage answer planned scenarios recorded disk rounds' h' t')
    (fun e t' => ∃ rounds', (rounds'.length : Int) < planned
      ∧ BrokenBehind answer planned scenarios disk rounds' e t')
  := by
  induction n generalizing rounds h t with
  | zero =>
    apply ends_pure
    use rounds, rfl
  | succ n ih =>
    have hmax : max planned ((rounds.length : Int) + 1) = planned := by omega
    have hstep := hrun rounds h t hstage
    rw [hmax] at hstep
    apply (hstep.mono (fun _ _ h => h) fun _ _ hbroken => ⟨rounds, by omega, hbroken⟩).bind
    rintro h' t' ⟨round, hstage'⟩
    have hlength : ((rounds ++ [round]).length : Int) = rounds.length + 1 := by simp
    have hrest := ih hstage' (by rw [hlength]; omega)
    rw [hlength] at hrest
    apply hrest.mono
    · rintro h'' t'' ⟨rounds', hrounds', hstage''⟩
      use rounds'
      constructor
      · rw [hrounds', List.length_append, List.length_singleton]
        omega
      · apply hstage''
    · intro e t'' hbroken
      apply hbroken

/-- The numbers of rounds, from the planned one on, at which a run may stop: it has reached the
largest number, or the rounds so far are calm. -/
def stops (planned most : Int) (noisy : List (Round Binary64) → Prop)
    (rounds : List (Round Binary64)) : Set Nat :=
  {n | planned ≤ n ∧ ((n : Int) = most ∨ ¬noisy (rounds.take n))}

/-- If the run could not stop earlier, the number of its rounds is the least at which it may. -/
theorem isLeast_stops {most : Int} {noisy : List (Round Binary64) → Prop}
    (hle : (rounds.length : Int) ≤ most)
    (hbefore : ∀ n : Nat, planned ≤ n → n < rounds.length → noisy (rounds.take n))
    (hstop : rounds.length ∈ stops planned most noisy rounds) :
  IsLeast (stops planned most noisy rounds) rounds.length
  := by
  use hstop
  rintro n ⟨hn, hmost | hcalm⟩
  · omega
  · by_contra hlt
    exact hcalm (hbefore n hn (by omega))

/-- The extra rounds lead to the first stage at which the run may stop. -/
theorem Advances.ends_runExtra (hrun : Advances answer planned scenarios recorded disk run)
    {p : Policy Binary64} {noisy : List (Round Binary64) → Prop}
    (hnoisy : ∀ rounds h, recorded rounds h → (isNoisy h p.maxVariation = true ↔ noisy rounds))
    {left : Nat} (hstage : Stage answer planned scenarios recorded disk rounds h t)
    (hleft : (rounds.length : Int) + left = p.maxRounds) (hplanned : planned ≤ rounds.length)
    (hbefore : ∀ n : Nat, planned ≤ n → n < rounds.length → noisy (rounds.take n)) :
  t.Ends (runExtra run p left rounds.length h)
    (fun h' t' => ∃ rounds', Stage answer planned scenarios recorded disk rounds' h' t'
      ∧ IsLeast (stops planned p.maxRounds noisy rounds') rounds'.length)
    (Broken answer planned scenarios disk)
  := by
  induction left generalizing rounds h t with
  | zero =>
    apply ends_pure
    use rounds, hstage
    apply isLeast_stops (by omega) hbefore
    use hplanned
    left
    omega
  | succ left ih =>
    have hgoes : goesOn rounds.length rounds.length p h = true ↔ noisy rounds := by
      rw [goesOn_iff, hnoisy rounds h hstage.recorded, and_iff_right rfl, and_iff_right]
      omega
    rw [runExtra]
    by_cases hloud : noisy rounds
    · rw [if_pos (hgoes.2 hloud)]
      apply ends_say_bind
      have hstage' := hstage.print (extensionLine p.maxVariation (rounds.length + 1))
      have hmax : max planned ((rounds.length : Int) + 1) = rounds.length + 1 := by omega
      have hstep := hrun rounds h _ hstage'
      rw [hmax] at hstep
      apply (hstep.mono (fun _ _ h => h) fun _ _ hbroken => ⟨rounds, hbroken⟩).bind
      rintro h'' t'' ⟨round, hstage''⟩
      have hlength : ((rounds ++ [round]).length : Int) = rounds.length + 1 := by simp
      have hrest := ih hstage'' (by omega) (by omega) (by
        intro n hn hlt
        rw [List.length_append, List.length_singleton] at hlt
        rw [List.take_append_of_le_length (by omega)]
        by_cases hlast : n = rounds.length
        · rw [hlast, List.take_length]
          apply hloud
        · apply hbefore n hn (by omega))
      rw [hlength] at hrest
      apply hrest
    · rw [if_neg (fun hgo => hloud (hgoes.1 hgo))]
      apply ends_pure
      use rounds, hstage
      apply isLeast_stops (by omega) hbefore
      use hplanned
      right
      rw [List.take_length]
      apply hloud

end Trial

end PerfGate
