import PerfGate.Measure
import PerfGate.Proofs.Binary64.Overflow
import PerfGate.Proofs.Config

/-!
# The time budget of a load run

A load run is given its duration and half a minute.  A duration that can be read is above zero, and
finite unless its numeral overflows when it is multiplied by the factor of its unit
(`Duration.tells_of_seconds?`).  Its milliseconds are rounded, cut, and kept in a 64-bit word, and
so is the sum with the half minute.  Nothing checks that they are in range: a budget is sound up to
a bound, and negative from there on.
-/

namespace PerfGate

/-! ### Durations -/

namespace Duration

/-- The factor of a unit is a whole number from one to 3600. -/
theorem exists_scale (t : Text) :
  ∃ n : Nat, (splitUnit t).2 = n ∧ 1 ≤ n ∧ n ≤ 3600
  := by
  unfold splitUnit
  split
  · use 1, rfl
    omega
  · use 60, rfl
    omega
  · use 3600, rfl
    omega
  · use 1, rfl
    omega

/-- Whether a number is the length that a text tells, in seconds: what its numeral times the factor
of its unit is calculated as. -/
def Tells (t : Text) (seconds : Binary64) : Prop :=
  ∃ value v, Numeral.float? (splitUnit (Text.lower t.trim)).1 = some value
    ∧ value.value? = some v ∧ 0 < v
    ∧ Binary64.Carries (v * (splitUnit (Text.lower t.trim)).2) seconds

/-- A duration that is read is what its text tells, and above zero. -/
theorem tells_of_seconds? {t : Text} {seconds : Binary64} (h : seconds? t = some seconds) :
  Tells t seconds ∧ Scalar.lt (.zero false) seconds = true
  := by
  obtain ⟨n, hscale, hpos, hle⟩ := exists_scale (Text.lower t.trim)
  unfold seconds? at h
  unfold Tells
  generalize splitUnit (Text.lower t.trim) = parts at h hscale ⊢
  obtain ⟨number, scale⟩ := parts
  obtain rfl : scale = n := hscale
  obtain ⟨value, hvalue, h⟩ := Option.bind_eq_some_iff.1 h
  split at h
  · cases h
  · rename_i hsign
    have hfinite : value.isFinite = true := Numeral.isFinite_of_ofNumeral? hvalue
    obtain ⟨u, hu, rfl, hu'⟩ :=
      Binary64.exists_finite_of_lt hfinite (Binary64.zero_lt_of_not_le hfinite hsign)
    obtain ⟨hscaled, hofInt⟩ := Binary64.exists_ofInt_finite (n := n) (by omega)
    obtain rfl := Option.some.inj h
    constructor
    · have hone := Binary64.units_pos
      have hu'' : (0 : ℚ) < u := by exact_mod_cast hu'
      refine ⟨_, _, hvalue, rfl, div_pos hu'' hone, ?_⟩
      apply Binary64.carries_mul ⟨u, hu, rfl⟩ ⟨_, hscaled, hofInt⟩ rfl
      apply Binary64.value?_ofInt
      omega
    · rw [hofInt]
      apply Binary64.zero_lt_ofRatio Binary64.unitsPerOne_pos
      have hmul : 1 * (1 * Binary64.unitsPerOne) ≤ u * (n * Binary64.unitsPerOne) :=
        Nat.mul_le_mul hu' (Nat.mul_le_mul_right _ hpos)
      omega

end Duration

/-! ### Numbers and words -/

theorem Binary64.value?_eq_none {x : Binary64} (h : x.isFinite = false) :
  x.value? = none
  := by
  cases x with
  | finite s u hu => cases h
  | infinite s => rfl
  | nan s => rfl

theorem wrap64_eq {n : Int} (h : inRange64 n = true) :
  wrap64 n = n
  := by
  simp only [inRange64, Bool.and_eq_true, decide_eq_true_eq] at h
  unfold wrap64
  apply Int.bmod_eq_of_le
  · omega
  · omega

namespace LoadPlan

/-- The longest load in milliseconds whose budget is in range: `2 ^ 63 - 30208`. -/
def longestMs : Nat := 0x7fffffffffff8a00

/-! ### Rounded milliseconds -/

/-- What the milliseconds of a number of seconds are rounded to, both in units. -/
def roundedMs (u : Nat) : Nat :=
  Binary64.roundRatio (u * (1000 * Binary64.unitsPerOne)) Binary64.unitsPerOne

theorem truncate?_mul_thousand (u : Nat) (hu : FitsBinary64 u) :
  (Binary64.finite false u hu * Binary64.ofInt 1000).truncate? =
    if roundedMs u < unitLimit then
      some ((roundedMs u / Binary64.unitsPerOne : Nat) : Int)
    else none
  := by
  obtain ⟨h, hofInt⟩ := Binary64.exists_ofInt_finite (n := 1000) (by decide)
  have hmul : Binary64.finite false u hu * Binary64.ofInt 1000 =
      .ofRatio false (u * (1000 * Binary64.unitsPerOne)) Binary64.unitsPerOne := by
    show Binary64.mul _ (Binary64.ofInt (1000 : Nat)) = _
    rw [hofInt]
    rfl
  rw [hmul, Binary64.ofRatio]
  unfold roundedMs
  split
  · rfl
  · rfl

/-- The last place of the numbers in front of `2 ^ 63` is that of 1024. -/
theorem exists_place :
  ∃ n, n + 53 ≤ limitExponent ∧ 2 ^ 10 * Binary64.unitsPerOne = Nat.pow 2 n
  := ⟨10 + 1074, by decide, Binary64.two_pow_mul_unitsPerOne 10⟩

/-- The rounded milliseconds leave room for the half minute, that is, they are below `2 ^ 63 - 30000`,
exactly up to the longest load: the next number behind that bound is too large already. -/
theorem roundedMs_lt_iff {u : Nat} :
  roundedMs u < 0x7fffffffffff8ad0 * Binary64.unitsPerOne ↔
    u * 1000 ≤ longestMs * Binary64.unitsPerOne
  := by
  obtain ⟨n, hlimit, hplace⟩ := exists_place
  have hone := Binary64.unitsPerOne_pos
  have hmiddle : roundedMs u < (0x1fffffffffffe2 + 1) * 2 ^ n ↔ _ :=
    Binary64.roundRatio_lt_iff hone (by decide) (by decide)
  have hnext : roundedMs u < (0x1fffffffffffe2 + 1) * 2 ^ n → roundedMs u ≤ 0x1fffffffffffe2 * 2 ^ n :=
    Binary64.roundRatio_le_of_lt (by decide) (by decide) hlimit
  generalize roundedMs u = r at hmiddle hnext ⊢
  generalize Binary64.unitsPerOne = one at hmiddle hnext hplace hone ⊢
  have hplace : 2 ^ n = 1024 * one := hplace.symm
  have hleft : 2 * (u * (1000 * one)) = 2 * (u * 1000) * one := by ring
  have hright : (2 * 0x1fffffffffffe2 + 1) * (one * (1024 * one)) = 2 * (longestMs * one) * one := by
    unfold longestMs
    ring
  rw [hplace] at hmiddle hnext
  rw [hleft, hright, Nat.mul_lt_mul_right hone, Nat.mul_left_inj hone.ne'] at hmiddle
  have hbound : u * 1000 ≤ longestMs * one ↔ r < (0x1fffffffffffe2 + 1) * (1024 * one) := by
    rw [hmiddle]
    omega
  rw [hbound]
  constructor
  · intro hless
    apply hless.trans_le
    rw [← Nat.mul_assoc]
    apply Nat.mul_le_mul_right
    decide
  · intro hless
    apply (hnext hless).trans_lt
    rw [← Nat.mul_assoc]
    apply (Nat.mul_lt_mul_right hone).2
    decide

/-- Rounding the milliseconds loses less than 1024 of them. -/
theorem lt_roundedMs_add {u : Nat} (h : roundedMs u < 0x8000000000000000 * Binary64.unitsPerOne) :
  u * 1000 < roundedMs u + 1024 * Binary64.unitsPerOne
  := by
  obtain ⟨n, -, hplace⟩ := exists_place
  have hone := Binary64.unitsPerOne_pos
  have hloss : roundedMs u < 2 ^ (n + 53) →
      u * (1000 * Binary64.unitsPerOne) < (roundedMs u + 2 ^ n) * Binary64.unitsPerOne :=
    Binary64.lt_roundRatio_add hone
  generalize roundedMs u = r at h hloss ⊢
  generalize Binary64.unitsPerOne = one at h hloss hplace hone ⊢
  have hplace : 2 ^ n = 1024 * one := hplace.symm
  rw [Nat.pow_add, hplace, ← Nat.mul_assoc, Nat.mul_lt_mul_right hone] at hloss
  apply hloss
  omega

theorem lt_unitLimit_of_lt {x : Nat} (h : x < 0x8000000000000000 * Binary64.unitsPerOne) :
  x < unitLimit
  := by
  obtain ⟨n, hlimit, hplace⟩ := exists_place
  apply lt_unitLimit _ hlimit
  generalize Binary64.unitsPerOne = one at h hplace
  have hplace : 2 ^ n = 1024 * one := hplace.symm
  show x < 2 ^ (n + 53)
  rw [Nat.pow_add, hplace]
  omega

/-! ### Budgets -/

/-- Whether the budget of a load run is calculated without leaving the 64-bit range, and is no less
than its load, which is finite and above zero. -/
structure Sound (r : LoadPlan) : Prop where
  /-- The whole milliseconds are in range, and so is their sum with the half minute. -/
  in_range : ∃ ms, (r.seconds * Binary64.ofInt 1000).truncate? = some ms
    ∧ inRange64 ms = true ∧ inRange64 (ms + overrunMs) = true ∧ r.budgetMs = ms + overrunMs
  /-- The load fits in the budget. -/
  covers : ∃ w, r.seconds.value? = some w ∧ 0 < w ∧ w * 1000 ≤ r.budgetMs

variable {r : LoadPlan}

/-- Milliseconds that leave no room for the half minute make the budget negative. -/
theorem budgetMs_neg (h : ∀ ms, (r.seconds * Binary64.ofInt 1000).truncate? = some ms →
    0x7fffffffffff8ad0 ≤ ms) :
  r.budgetMs < 0
  := by
  have hwhole : wholeMs r.seconds = indefinite64
      ∨ 0x7fffffffffff8ad0 ≤ wholeMs r.seconds ∧ wholeMs r.seconds < 0x8000000000000000 := by
    unfold wholeMs
    cases hms : (r.seconds * Binary64.ofInt 1000).truncate? with
    | none =>
      left
      rfl
    | some ms =>
      dsimp only
      split
      · rename_i hrange
        simp only [inRange64, Bool.and_eq_true, decide_eq_true_eq] at hrange
        right
        use h ms hms, hrange.2
      · left
        rfl
  unfold budgetMs wrap64 overrunMs
  rw [Int.bmod_def]
  rcases hwhole with hwhole | ⟨hlow, hhigh⟩
  · rw [hwhole, indefinite64]
    decide
  · omega

/-- A load that is not longer than the longest one has a sound budget. -/
theorem sound_of_le {u : Nat} {hu : FitsBinary64 u} (hseconds : r.seconds = .finite false u hu)
    (hpos : 0 < u) (h : u * 1000 ≤ longestMs * Binary64.unitsPerOne) :
  r.Sound
  := by
  have hone := Binary64.unitsPerOne_pos
  have hless := roundedMs_lt_iff.2 h
  have hless' : roundedMs u < 0x8000000000000000 * Binary64.unitsPerOne := by omega
  have hloss := lt_roundedMs_add hless'
  have hms := truncate?_mul_thousand u hu
  rw [if_pos (lt_unitLimit_of_lt hless'), ← hseconds] at hms
  have hq : roundedMs u / Binary64.unitsPerOne < 0x7fffffffffff8ad0 :=
    (Nat.div_lt_iff_lt_mul hone).2 hless
  have hcut : roundedMs u < Binary64.unitsPerOne * (roundedMs u / Binary64.unitsPerOne + 1) :=
    Nat.lt_mul_div_succ _ hone
  generalize roundedMs u / Binary64.unitsPerOne = q at hms hq hcut
  have hrange : inRange64 q = true := by
    simp only [inRange64, Bool.and_eq_true, decide_eq_true_eq]
    omega
  have hoverrun : overrunMs = 30000 := rfl
  have hrange' : inRange64 (q + overrunMs) = true := by
    simp only [inRange64, Bool.and_eq_true, decide_eq_true_eq]
    omega
  have hbudget : r.budgetMs = q + overrunMs := by
    unfold budgetMs wholeMs
    rw [hms]
    dsimp only
    rw [if_pos hrange, wrap64_eq hrange']
  constructor
  · use q, hms, hrange, hrange'
  · have hcovered : u * 1000 ≤ (q + 30000) * Binary64.unitsPerOne := by
      rw [Nat.mul_succ, Nat.mul_comm] at hcut
      rw [Nat.add_mul]
      omega
    have hcovered : (u : ℚ) * 1000 ≤ (q + 30000) * Binary64.unitsPerOne := by
      exact_mod_cast hcovered
    refine ⟨(u : ℚ) / Binary64.unitsPerOne, ?_, ?_, ?_⟩
    · rw [hseconds]
      rfl
    · apply div_pos _ Binary64.units_pos
      exact_mod_cast hpos
    · rw [hbudget, hoverrun, div_mul_eq_mul_div, div_le_iff₀ Binary64.units_pos]
      push_cast
      apply hcovered

/-- A longer load has a negative budget. -/
theorem budgetMs_neg_of_lt {u : Nat} {hu : FitsBinary64 u}
    (hseconds : r.seconds = .finite false u hu)
    (h : longestMs * Binary64.unitsPerOne < u * 1000) :
  r.budgetMs < 0
  := by
  have hmore := roundedMs_lt_iff.not.2 (Nat.not_le.2 h)
  apply budgetMs_neg
  intro ms hms
  rw [hseconds, truncate?_mul_thousand] at hms
  split at hms
  · obtain rfl := Option.some.inj hms
    have hdiv : 0x7fffffffffff8ad0 ≤ roundedMs u / Binary64.unitsPerOne :=
      (Nat.le_div_iff_mul_le Binary64.unitsPerOne_pos).2 (Nat.not_lt.1 hmore)
    omega
  · cases hms

theorem le_longestMs_iff (u : Nat) :
  (u : ℚ) / Binary64.unitsPerOne * 1000 ≤ longestMs ↔ u * 1000 ≤ longestMs * Binary64.unitsPerOne
  := by
  rw [div_mul_eq_mul_div, div_le_iff₀ Binary64.units_pos]
  norm_cast

theorem not_sound_of_budgetMs_neg (h : r.budgetMs < 0) :
  ¬r.Sound
  := by
  intro hsound
  obtain ⟨w, -, hpos, hle⟩ := hsound.covers
  have hbudget : (r.budgetMs : ℚ) < 0 := by exact_mod_cast h
  linarith

/-- The milliseconds of a number that is not finite are not either. -/
theorem truncate?_mul_thousand_eq_none {x : Binary64} (h : x.isFinite = false) :
  (x * Binary64.ofInt 1000).truncate? = none
  := by
  obtain ⟨hscaled, hofInt⟩ := Binary64.exists_ofInt_finite (n := 1000) (by decide)
  show (Binary64.mul x (Binary64.ofInt (1000 : Nat))).truncate? = none
  rw [hofInt]
  cases x with
  | finite s u hu => cases h
  | infinite s =>
    have hone := Binary64.unitsPerOne_pos
    rw [Binary64.mul, if_neg (by omega)]
    rfl
  | nan s => rfl

/-- The budget of a load above zero is sound exactly if the load is finite and not longer than the
longest one, and negative otherwise. -/
theorem sound_iff_of_pos (hpos : (Binary64.zero false).lt r.seconds = true) :
  (r.Sound ↔ ∃ w, r.seconds.value? = some w ∧ w * 1000 ≤ longestMs)
    ∧ (¬r.Sound → r.budgetMs < 0)
  := by
  by_cases hfinite : r.seconds.isFinite = true
  · obtain ⟨u, hu, hseconds, hu'⟩ := Binary64.exists_finite_of_lt hfinite hpos
    have hvalue : r.seconds.value? = some ((u : ℚ) / Binary64.unitsPerOne) := by
      rw [hseconds]
      rfl
    have hshort : (∃ w, r.seconds.value? = some w ∧ w * 1000 ≤ longestMs) ↔
        u * 1000 ≤ longestMs * Binary64.unitsPerOne := by
      rw [hvalue, ← le_longestMs_iff]
      constructor
      · rintro ⟨w, hw, hle⟩
        rw [Option.some.inj hw]
        apply hle
      · intro hle
        exact ⟨_, rfl, hle⟩
    rw [hshort]
    by_cases hle : u * 1000 ≤ longestMs * Binary64.unitsPerOne
    · have hsound := sound_of_le hseconds hu' hle
      use iff_of_true hsound hle
      intro hunsound
      cases hunsound hsound
    · have hneg := budgetMs_neg_of_lt hseconds (Nat.lt_of_not_le hle)
      use iff_of_false (not_sound_of_budgetMs_neg hneg) hle, fun _ => hneg
  · have hinfinite : r.seconds.isFinite = false := by simpa using hfinite
    have hneg : r.budgetMs < 0 := by
      apply budgetMs_neg
      intro ms hms
      rw [truncate?_mul_thousand_eq_none hinfinite] at hms
      cases hms
    have hlong : ¬∃ w, r.seconds.value? = some w ∧ w * 1000 ≤ longestMs := by
      rintro ⟨w, hw, -⟩
      rw [Binary64.value?_eq_none hinfinite] at hw
      cases hw
    use iff_of_false (not_sound_of_budgetMs_neg hneg) hlong, fun _ => hneg

end LoadPlan

namespace Bench

variable {m : Type → Type} {b : Bench m}

/-- The duration of a valid configuration is what its text tells, and above zero.  The budget of
its load runs is sound exactly if the duration is finite and no longer than the longest load, and it
is negative otherwise. -/
theorem sound_iff (hvalid : b.config.validate = .ok ()) (s : Scenario) :
  Duration.seconds? b.config.policy.duration = some (b.request s).seconds
    ∧ Duration.Tells b.config.policy.duration (b.request s).seconds
    ∧ Scalar.lt (.zero false) (b.request s).seconds = true
    ∧ ((b.request s).Sound ↔
        ∃ w, (b.request s).seconds.value? = some w ∧ w * 1000 ≤ LoadPlan.longestMs)
    ∧ (¬(b.request s).Sound → (b.request s).budgetMs < 0)
  := by
  have hconstraints := Config.constraints_of_validate hvalid
  simp only [Config.constraints, List.forall_mem_cons] at hconstraints
  obtain ⟨-, -, -, -, -, hduration, -⟩ := hconstraints
  obtain ⟨seconds, hseconds⟩ := Option.isSome_iff_exists.1 hduration
  have hrequest : (b.request s).seconds = seconds := by
    show (Duration.seconds? b.config.policy.duration).getD _ = _
    rw [hseconds]
    rfl
  obtain ⟨htells, hpos⟩ := Duration.tells_of_seconds? hseconds
  rw [← hrequest] at hseconds htells hpos
  use hseconds, htells, hpos
  apply LoadPlan.sound_iff_of_pos hpos

/-- A bench with a duration, and the standard settings apart from that. -/
def lasting (duration : Text) : Bench Id where
  config := { policy := { Policy.standard with duration } }
  scenarios := []
  pins := {}
  subjectConfig := { target := [], backup := [], existed := false }
  workDir := []
  load _ := []

/-- The load run of a scenario on such a bench. -/
def lastingPlan (duration : Text) : LoadPlan :=
  (lasting duration).request ⟨"forward_nonstream_wrk".toList, false, false, "m1".toList, .single⟩

/-- Ten seconds have a sound budget. -/
theorem sound_iff_ten_seconds :
  (lasting "10s".toList).config.validate = .ok () ∧ (lastingPlan "10s".toList).Sound
    ∧ (lastingPlan "10s".toList).budgetMs = 40000
  := by
  have hvalid : (lasting "10s".toList).config.validate = .ok () := by decide +kernel
  have hseconds : (lastingPlan "10s".toList).seconds = .ofInt (10 : Nat) := by decide +kernel
  obtain ⟨-, -, -, hsound, -⟩ := sound_iff hvalid
    ⟨"forward_nonstream_wrk".toList, false, false, "m1".toList, .single⟩
  have hvalue := Binary64.value?_ofInt (n := 10) (by decide)
  rw [← hseconds] at hvalue
  use hvalid
  constructor
  · apply hsound.2
    use (10 : Nat), hvalue
    rw [LoadPlan.longestMs]
    norm_num
  · decide +kernel

/-- Durations that are valid: one is read as infinity, and the other one has a negative budget. -/
theorem budget_of_long_durations :
  (lasting "1e308h".toList).config.validate = .ok ()
    ∧ Duration.seconds? "1e308h".toList = some (.infinite false)
    ∧ (lasting "1e16s".toList).config.validate = .ok ()
    ∧ (lastingPlan "1e16s".toList).seconds.isFinite = true
    ∧ (lastingPlan "1e16s".toList).budgetMs < 0
  := by
  refine ⟨?_, ?_, ?_, ?_, ?_⟩
  all_goals decide +kernel

end Bench

end PerfGate
