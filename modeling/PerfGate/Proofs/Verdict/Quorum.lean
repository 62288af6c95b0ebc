import Mathlib.Order.Bounds.Basic
import Mathlib.Tactic.Linarith
import Mathlib.Tactic.NormNum
import PerfGate.Proofs.Exact
import PerfGate.Proofs.Verdict.Monotone

/-!
# The quorum and extension

In exact numbers the quorum is the least number of passing rounds that suffices (`Suffices`): no
fewer than the ratio asks for, up to the slack, and no fewer than the given least number.  One more
round raises it by one at most, because the ratio is at most one.  So a run is not worse off for
being extended: a scenario that passes in all the added rounds keeps its quorum (`quorum_fair`).
-/

namespace PerfGate

/-! ### What the ratio asks for -/

section Ratio

variable {executed executed' : Int} {ratio ratio' : ℚ} {least least' : Option Int}

theorem roundsOfRatio_eq (executed : Int) (ratio : ℚ) :
  roundsOfRatio executed ratio =
    if 0 ≤ ⌈executed * ratio - 1 / 1000⌉ ∧ ⌈executed * ratio - 1 / 1000⌉ < 0x80000000
    then ⌈executed * ratio - 1 / 1000⌉ else 0
  := by
  show (if (decide (0 ≤ ⌈executed * ratio - 1 / 1000⌉)
    && inRange32 ⌈executed * ratio - 1 / 1000⌉) = true then _ else _) = _
  congr 1
  rw [inRange32]
  grind

theorem roundsOfRatio_nonneg (executed : Int) (ratio : ℚ) :
  0 ≤ roundsOfRatio executed ratio
  := by
  rw [roundsOfRatio_eq]
  split
  · omega
  · rfl

/-- At most all rounds are asked for. -/
theorem ceil_ratio_le (hexecuted : 0 ≤ executed) (hratio : ratio ≤ 1) :
  ⌈executed * ratio - 1 / 1000⌉ ≤ executed
  := by
  apply Int.ceil_le.2
  have hall : executed * ratio ≤ executed * 1 :=
    mul_le_mul_of_nonneg_left hratio (Int.cast_nonneg hexecuted)
  linarith

theorem roundsOfRatio_le (hexecuted : 0 ≤ executed) (hratio : ratio ≤ 1) :
  roundsOfRatio executed ratio ≤ executed
  := by
  have hceil := ceil_ratio_le hexecuted hratio
  rw [roundsOfRatio_eq]
  split
  · apply hceil
  · apply hexecuted

/-- Within the 32-bit range, what is asked for is a number of rounds. -/
theorem roundsOfRatio_eq_max (hexecuted : 0 ≤ executed) (hrange : inRange32 executed = true)
    (hratio : ratio ≤ 1) :
  roundsOfRatio executed ratio = max 0 ⌈executed * ratio - 1 / 1000⌉
  := by
  have hceil := ceil_ratio_le hexecuted hratio
  rw [inRange32, Bool.and_eq_true, decide_eq_true_iff, decide_eq_true_iff] at hrange
  rw [roundsOfRatio_eq]
  split
  · omega
  · omega

/-- One more round asks for one more at most; also if the number leaves the 32-bit range, for then
none is asked for. -/
theorem roundsOfRatio_succ_le (hratio : 0 ≤ ratio) (hratio' : ratio ≤ 1) (executed : Int) :
  roundsOfRatio (executed + 1) ratio ≤ roundsOfRatio executed ratio + 1
  := by
  have hle : ⌈executed * ratio - 1 / 1000⌉ ≤ ⌈(executed + 1 : Int) * ratio - 1 / 1000⌉ := by
    apply Int.ceil_le_ceil
    push_cast
    linarith
  have hsucc : ⌈(executed + 1 : Int) * ratio - 1 / 1000⌉ ≤ ⌈executed * ratio - 1 / 1000⌉ + 1 := by
    rw [← Int.ceil_add_one]
    apply Int.ceil_le_ceil
    push_cast
    linarith
  rw [roundsOfRatio_eq, roundsOfRatio_eq]
  split
  · split
    · omega
    · omega
  · split
    · omega
    · omega

/-! ### The quorum -/

/-- The quorum is what the ratio asks for or what is given, whichever is more. -/
theorem quorum_eq_max (executed : Int) (ratio : ℚ) (least : Option Int) :
  quorum executed ratio least = max (roundsOfRatio executed ratio) (least.getD 0)
  := by
  have hnonneg := roundsOfRatio_nonneg executed ratio
  unfold quorum
  cases least with
  | none => rw [Option.getD_none, max_eq_left hnonneg]
  | some n =>
    dsimp only
    rw [Option.getD_some]
    split
    · omega
    · omega

theorem quorum_le_max (hexecuted : 0 ≤ executed) (hratio : ratio ≤ 1) (least : Option Int) :
  quorum executed ratio least ≤ max executed (least.getD 0)
  := by
  rw [quorum_eq_max]
  apply max_le_max_right _ (roundsOfRatio_le hexecuted hratio)

/-- The quorum can be met if the given least number can. -/
theorem quorum_le {executed : Nat} (hratio : ratio ≤ 1)
    (hleast : ∀ n, least = some n → n ≤ executed) :
  quorum executed ratio least ≤ executed
  := by
  apply (quorum_le_max (Int.natCast_nonneg executed) hratio least).trans
  cases least with
  | none => apply max_le le_rfl (Int.natCast_nonneg executed)
  | some n => apply max_le le_rfl (hleast n rfl)

/-- One more round raises the quorum by one at most. -/
theorem quorum_succ_le (hratio : 0 ≤ ratio) (hratio' : ratio ≤ 1) (executed : Int)
    (least : Option Int) :
  quorum (executed + 1) ratio least ≤ quorum executed ratio least + 1
  := by
  have hsucc := roundsOfRatio_succ_le hratio hratio' executed
  rw [quorum_eq_max, quorum_eq_max]
  omega

theorem quorum_add_le (hratio : 0 ≤ ratio) (hratio' : ratio ≤ 1) (executed : Int) (extra : Nat)
    (least : Option Int) :
  quorum (executed + extra) ratio least ≤ quorum executed ratio least + extra
  := by
  induction extra with
  | zero => simp
  | succ extra ih =>
    calc quorum (executed + (extra + 1 : Nat)) ratio least
      _ = quorum (executed + extra + 1) ratio least := by push_cast; rw [Int.add_assoc]
      _ ≤ quorum (executed + extra) ratio least + 1 := quorum_succ_le hratio hratio' _ _
      _ ≤ quorum executed ratio least + extra + 1 := Int.add_le_add_right ih 1
      _ = quorum executed ratio least + (extra + 1 : Nat) := by push_cast; rw [Int.add_assoc]

/-- Whether a number of passing rounds is enough. -/
structure Suffices (executed : Int) (ratio : ℚ) (least : Option Int) (k : Int) : Prop where
  /-- It is a number of rounds. -/
  nonneg : 0 ≤ k
  /-- It is no less than the ratio asks for, up to the slack. -/
  ratio_le : executed * ratio - 1 / 1000 ≤ k
  /-- It is no less than the given number. -/
  least_le : ∀ n, least = some n → n ≤ k

/-- The quorum is the least number that is enough. -/
theorem quorum_isLeast (hexecuted : 0 ≤ executed) (hrange : inRange32 executed = true)
    (hratio : ratio ≤ 1) (least : Option Int) :
  IsLeast {k | Suffices executed ratio least k} (quorum executed ratio least)
  := by
  rw [quorum_eq_max, roundsOfRatio_eq_max hexecuted hrange hratio]
  constructor
  · constructor
    · apply (le_max_left _ _).trans (le_max_left _ _)
    · apply Int.ceil_le.1
      apply (le_max_right _ _).trans (le_max_left _ _)
    · rintro n rfl
      apply le_max_right
  · intro k hk
    apply max_le
    · apply max_le hk.nonneg (Int.ceil_le.2 hk.ratio_le)
    · cases least with
      | none => apply hk.nonneg
      | some n => apply hk.least_le n rfl

/-- The quorum does not fall if there are more rounds, a higher ratio or a higher given number. -/
theorem quorum_mono (hexecuted : 0 ≤ executed) (hexecuted' : executed ≤ executed')
    (hrange : inRange32 executed' = true) (hratio : 0 ≤ ratio) (hratio' : ratio ≤ ratio')
    (hone : ratio' ≤ 1) (hleast : least.getD 0 ≤ least'.getD 0) :
  quorum executed ratio least ≤ quorum executed' ratio' least'
  := by
  have hrange' : inRange32 executed = true := by
    rw [inRange32, Bool.and_eq_true, decide_eq_true_iff, decide_eq_true_iff] at hrange ⊢
    omega
  -- what is enough for the greater numbers is enough for the smaller ones
  obtain ⟨hnonneg, hasked, -⟩ :=
    (quorum_isLeast (hexecuted.trans hexecuted') hrange hone least').1
  apply (quorum_isLeast hexecuted hrange' (hratio'.trans hone) least).2
  constructor
  · apply hnonneg
  · have hmul : executed * ratio ≤ executed' * ratio' := by
      apply mul_le_mul (Int.cast_le.2 hexecuted') hratio' hratio
      apply Int.cast_nonneg (hexecuted.trans hexecuted')
    linarith
  · rintro n rfl
    apply hleast.trans
    rw [quorum_eq_max]
    apply le_max_right

end Ratio

/-! ### Extension -/

section Extension

/-- Whether a finding over rounds says how the quorum of its scenario stands. -/
structure CountsQuorum (b : Baseline ℚ) (p : Policy ℚ) (scenarios : List ScenarioName)
    (rounds : List (Round ℚ)) (finding : ScenarioFinding ℚ) : Prop where
  /-- The passing rounds are those that score true, each as often as the scenario is listed. -/
  passRounds_eq : finding.passRounds =
    scenarios.count finding.scenario
      * rounds.countP (scoresTrue b p.memoryLimitKb finding.scenario)
  /-- The quorum is met if there are as many of them. -/
  quorum_iff : finding.checks.quorum = true ↔
    quorum rounds.length p.minPassRatio p.minPassRounds ≤ finding.passRounds

variable {b : Baseline ℚ} {p : Policy ℚ} {scenarios : List ScenarioName}
  {rounds extra : List (Round ℚ)} {h h' : History ℚ}

theorem History.Judged.countsQuorum (hh : h.Judged b p.memoryLimitKb scenarios rounds)
    {s : ScenarioName} (hs : s ∈ scenarios) {base : BaselineFigures ℚ}
    (hbase : Table.get? s b = some base) :
  CountsQuorum b p scenarios rounds
    (scenarioFinding h p (quorum rounds.length p.minPassRatio p.minPassRounds) s base)
  := by
  constructor
  · show (h.passTally s : Int) = _
    rw [hh.passTally_eq hs hbase]
    push_cast
    rfl
  · apply decide_eq_true_iff

/-- A scenario that passes in each added round keeps its quorum, for it gains as many passing
rounds as the quorum can rise by. -/
theorem CountsQuorum.extend {finding finding' : ScenarioFinding ℚ}
    (hfinding : CountsQuorum b p scenarios rounds finding)
    (hfinding' : CountsQuorum b p scenarios (rounds ++ extra) finding')
    (hscenario : finding'.scenario = finding.scenario) (hs : finding.scenario ∈ scenarios)
    (hratio : 0 ≤ p.minPassRatio) (hratio' : p.minPassRatio ≤ 1)
    (hscore : ∀ round ∈ extra, scoresTrue b p.memoryLimitKb finding.scenario round = true)
    (hmet : finding.checks.quorum = true) :
  finding'.checks.quorum = true
  := by
  have hbefore := hfinding.quorum_iff.1 hmet
  have hgain : (extra.length : Int) ≤ scenarios.count finding.scenario * extra.length := by
    rw [← Nat.cast_mul]
    apply Int.ofNat_le.2 (Nat.le_mul_of_pos_left _ (List.count_pos_iff.2 hs))
  rw [hfinding.passRounds_eq] at hbefore
  rw [hfinding'.quorum_iff, hfinding'.passRounds_eq, hscenario]
  calc quorum (rounds ++ extra).length p.minPassRatio p.minPassRounds
    _ = quorum (rounds.length + extra.length) p.minPassRatio p.minPassRounds := by
      rw [List.length_append, Nat.cast_add]
    _ ≤ quorum rounds.length p.minPassRatio p.minPassRounds + extra.length :=
      quorum_add_le hratio hratio' _ _ _
    _ ≤ scenarios.count finding.scenario
            * rounds.countP (scoresTrue b p.memoryLimitKb finding.scenario)
          + scenarios.count finding.scenario * extra.length := Int.add_le_add hbefore hgain
    _ = scenarios.count finding.scenario
          * (rounds ++ extra).countP (scoresTrue b p.memoryLimitKb finding.scenario) := by
      rw [List.countP_append, List.countP_eq_length.2 hscore, Nat.cast_add, Int.mul_add]

/-- The findings over an extended run are about the same scenarios, and each scenario that passes
in the added rounds has its quorum met if it was met before. -/
theorem History.Judged.findings_extend (hh : h.Judged b p.memoryLimitKb scenarios rounds)
    (hh' : h'.Judged b p.memoryLimitKb scenarios (rounds ++ extra)) (hb : Covers b scenarios)
    (hratio : 0 ≤ p.minPassRatio) (hratio' : p.minPassRatio ≤ 1) :
  ∃ v v', finalVerdict h b p = .ok v ∧ finalVerdict h' b p = .ok v'
    ∧ v.scenarios.map (·.scenario) = scenarios
    ∧ List.Forall₂
        (fun finding finding' => finding'.scenario = finding.scenario
          ∧ CountsQuorum b p scenarios rounds finding
          ∧ CountsQuorum b p scenarios (rounds ++ extra) finding'
          ∧ ((∀ round ∈ extra, scoresTrue b p.memoryLimitKb finding.scenario round = true) →
              finding.checks.quorum = true → finding'.checks.quorum = true))
        v.scenarios v'.scenarios
  := by
  obtain ⟨v, hv, hneeded, -, hfindings⟩ := hh.exists_finalVerdict hb
  obtain ⟨v', hv', hneeded', -, hfindings'⟩ := hh'.exists_finalVerdict hb
  rw [hneeded] at hfindings
  rw [hneeded'] at hfindings'
  use v, v', hv, hv'
  constructor
  · rw [← List.forall₂_eq_eq_eq, List.forall₂_map_left_iff]
    apply hfindings.flip.imp
    rintro finding s ⟨base, -, rfl⟩
    rfl
  · apply List.forall₂_iff_get.2
    use hfindings.length_eq.symm.trans hfindings'.length_eq
    intro i hi hi'
    have hi₀ : i < scenarios.length := hfindings.length_eq ▸ hi
    have hs : scenarios.get ⟨i, hi₀⟩ ∈ scenarios := List.get_mem scenarios ⟨i, hi₀⟩
    obtain ⟨base, hbase, hfinding⟩ := hfindings.get hi₀ hi
    obtain ⟨base', hbase', hfinding'⟩ := hfindings'.get hi₀ hi'
    rw [hfinding, hfinding']
    have hcounts := hh.countsQuorum hs hbase
    have hcounts' := hh'.countsQuorum hs hbase'
    use rfl, hcounts, hcounts'
    intro hscore hmet
    apply hcounts.extend hcounts' rfl hs hratio hratio' hscore hmet

end Extension

/-- The quorum is the least number that is enough, so it is at most the number of rounds or the
given one; it does not fall if there are more rounds, a higher ratio or a higher given number; and
one more round raises it by one at most.  So if a run is extended, a scenario whose quorum was met
and that passes in each added round has its quorum met.  The range is that of a counter of rounds;
if no least number is given, that is the same as zero. -/
theorem quorum_fair :
  (∀ (executed : Int) (ratio : ℚ) (least : Option Int), 0 ≤ executed → inRange32 executed = true →
      0 < ratio → ratio ≤ 1 →
      IsLeast {k | Suffices executed ratio least k} (quorum executed ratio least)
      ∧ quorum executed ratio least ≤ max executed (least.getD 0))
    ∧ (∀ (executed executed' : Int) (ratio ratio' : ℚ) (least least' : Option Int),
        0 ≤ executed → executed ≤ executed' → inRange32 executed' = true →
        0 < ratio → ratio ≤ ratio' → ratio' ≤ 1 → least.getD 0 ≤ least'.getD 0 →
        quorum executed ratio least ≤ quorum executed' ratio' least')
    ∧ (∀ (executed : Int) (ratio : ℚ) (least : Option Int), 0 ≤ executed → 0 < ratio → ratio ≤ 1 →
        quorum (executed + 1) ratio least ≤ quorum executed ratio least + 1)
    ∧ (∀ (b : Baseline ℚ) (p : Policy ℚ) (scenarios : List ScenarioName)
          (rounds extra : List (Round ℚ)),
        0 < p.minPassRatio → p.minPassRatio ≤ 1 → Covers b scenarios →
        (∀ round ∈ rounds ++ extra, Covers round scenarios) →
        ∃ h v h' v', History.ofRounds b p.memoryLimitKb scenarios rounds = .ok h
          ∧ finalVerdict h b p = .ok v
          ∧ History.ofRounds b p.memoryLimitKb scenarios (rounds ++ extra) = .ok h'
          ∧ finalVerdict h' b p = .ok v'
          ∧ v.scenarios.map (·.scenario) = scenarios
          ∧ List.Forall₂
              (fun finding finding' => finding'.scenario = finding.scenario
                ∧ CountsQuorum b p scenarios rounds finding
                ∧ CountsQuorum b p scenarios (rounds ++ extra) finding'
                ∧ ((∀ round ∈ extra,
                      scoresTrue b p.memoryLimitKb finding.scenario round = true) →
                    finding.checks.quorum = true → finding'.checks.quorum = true))
              v.scenarios v'.scenarios)
  := by
  refine ⟨?_, ?_, ?_, ?_⟩
  · intro executed ratio least hexecuted hrange _ hratio
    use quorum_isLeast hexecuted hrange hratio least
    apply quorum_le_max hexecuted hratio
  · intro executed executed' ratio ratio' least least' hexecuted hexecuted' hrange hratio
    apply quorum_mono hexecuted hexecuted' hrange hratio.le
  · intro executed ratio least _ hratio hratio'
    apply quorum_succ_le hratio.le hratio'
  · intro b p scenarios rounds extra hratio hratio' hb hrounds
    obtain ⟨h, hh, hjudged⟩ := History.exists_ofRounds b p.memoryLimitKb
      fun round hround => hrounds round (List.mem_append_left extra hround)
    obtain ⟨h', hh', hjudged'⟩ := History.exists_ofRounds b p.memoryLimitKb hrounds
    obtain ⟨v, v', hv, hv', hfindings⟩ :=
      hjudged.findings_extend hjudged' hb hratio.le hratio'
    use h, v, h', v', hh, hv, hh', hv'

/-- The ratio of four places of nine rounds and of ten; and two rounds, one of which has to pass and
does, that are extended by a round that passes, when two of three have to. -/
theorem quorum_fair_lone :
  IsLeast {k | Suffices 9 (7778 / 10000) none k} 7
    ∧ quorum 9 (7778 / 10000 : ℚ) none ≤ quorum 10 (8 / 10 : ℚ) (some 3)
    ∧ quorum 10 (7778 / 10000 : ℚ) none ≤ 7 + 1
    ∧ ∃ h v h' v' finding finding', loneHistory [⟨90, 9, 30, 5⟩, ⟨120, 7, 40, 5⟩] = .ok h
      ∧ finalVerdict h loneBaseline lonePolicy = .ok v ∧ v.scenarios = [finding]
      ∧ finding.checks.quorum = true
      ∧ loneHistory [⟨90, 9, 30, 5⟩, ⟨120, 7, 40, 5⟩, ⟨130, 7, 39, 4⟩] = .ok h'
      ∧ finalVerdict h' loneBaseline lonePolicy = .ok v' ∧ v'.scenarios = [finding']
      ∧ finding'.checks.quorum = true
      ∧ quorum 3 lonePolicy.minPassRatio lonePolicy.minPassRounds
          = quorum 2 lonePolicy.minPassRatio lonePolicy.minPassRounds + 1
  := by
  have hseven : quorum 9 (7778 / 10000 : ℚ) none = 7 := by decide +kernel
  have hrounds := covers_lone ([⟨90, 9, 30, 5⟩, ⟨120, 7, 40, 5⟩] ++ [⟨130, 7, 39, 4⟩])
  rw [List.map_append] at hrounds
  obtain ⟨hleast, hmono, hsucc, hextend⟩ := quorum_fair
  obtain ⟨h, v, h', v', hh, hv, hh', hv', hnames, hfindings⟩ :=
    hextend loneBaseline lonePolicy ["lone".toList] _ _ (by decide +kernel) (by decide +kernel)
      covers_loneBaseline hrounds
  obtain ⟨finding, hfinding, hname⟩ := List.map_eq_singleton_iff.1 hnames
  rw [hfinding] at hfindings
  obtain ⟨finding', rest, ⟨-, hcounts, -, hkept⟩, hnil, hfinding'⟩ :=
    List.forall₂_cons_left_iff.1 hfindings
  obtain rfl := List.forall₂_nil_left_iff.1 hnil
  have hquorum : finding.checks.quorum = true := by
    rw [hcounts.quorum_iff, hcounts.passRounds_eq, hname]
    decide +kernel
  refine ⟨?_, ?_, ?_, h, v, h', v', finding, finding', hh, hv, hfinding, hquorum, hh', hv',
    hfinding', ?_, by decide +kernel⟩
  · rw [← hseven]
    apply (hleast 9 (7778 / 10000) none (by decide) (by decide) (by norm_num) (by norm_num)).1
  · apply hmono <;> norm_num [inRange32]
  · rw [← hseven]
    apply hsucc 9 (7778 / 10000) none (by decide) (by norm_num) (by norm_num)
  · apply hkept _ hquorum
    intro round hround
    obtain rfl := List.mem_singleton.1 hround
    rw [hname]
    decide +kernel

end PerfGate
