import PerfGate.Proofs.Baseline.Reload
import PerfGate.Proofs.Binary64.Overflow
import PerfGate.Proofs.Log.Round

/-!
# Which figures are finite

The decimals in a round log and in a baseline are finite and have no sign.  So are the numbers that
are calculated from them, as long as they do not overflow: a latency is multiplied by the factor of
its unit, and a processor cost is scaled and divided (`finite_unless_overflow`).  A latency that
overflows is read as infinity.
-/

namespace PerfGate

open Binary64

/-! ### Latencies -/

namespace Latency

/-- Whether a number is the latency that a text tells: what its decimal times the factor of its unit
is calculated as. -/
def Tells (t : Text) (y : Binary64) : Prop :=
  ∃ n value factor v f,
    Numeral.unsigned? ((Text.lower (Text.strip [' ', '\t'] t)).take n) = some value
    ∧ unitFactor? ((Text.lower (Text.strip [' ', '\t'] t)).drop n) = some factor
    ∧ value.value? = some v ∧ factor.value? = some f ∧ Carries (v * f) y

theorem isMagnitude_of_unitFactor? {unit : Text} {factor : Binary64}
    (h : unitFactor? unit = some factor) :
  factor.IsMagnitude
  := by
  have hwhole : ∀ n : Nat, n ≤ 2 ^ 64 → (Binary64.ofInt n).IsMagnitude := fun _ => isMagnitude_ofInt
  unfold unitFactor? at h
  split at h
  · obtain rfl := Option.some.inj h
    apply (carries_ofFraction 1 (by decide)).1
    have hone := cast_lt_overflow (n := 1) (by decide)
    push_cast at hone ⊢
    linarith
  · split at h
    · obtain rfl := Option.some.inj h
      apply hwhole 1 (by decide)
    · split at h
      · obtain rfl := Option.some.inj h
        apply hwhole 1000 (by decide)
      · split at h
        · obtain rfl := Option.some.inj h
          apply hwhole 1000000 (by decide)
        · cases h

theorem tells_of_microseconds? {t : Text} {y : Binary64} (h : microseconds? t = some y) :
  Tells t y
  := by
  obtain ⟨n, factor, value, -, -, hfactor, hvalue, rfl⟩ := SheetRow.exists_of_microseconds? h
  have hvalue' : value.IsMagnitude := Numeral.exists_finite_of_unsigned? hvalue
  have hfactor' := isMagnitude_of_unitFactor? hfactor
  obtain ⟨v, hv, -⟩ := hvalue'.exists_value?
  obtain ⟨f, hf, -⟩ := hfactor'.exists_value?
  exact ⟨n, value, factor, v, f, hvalue, hfactor, hv, hf, carries_mul hvalue' hfactor' hv hf⟩

end Latency

/-! ### Processor costs -/

/-- Whether a number is the cost that processor time and a rate are calculated as: zero without a
rate, and else the quotient of the scaled time by the rate, each of the two calculated for itself. -/
structure IsCost (cpu rps cost : Binary64) : Prop where
  /-- There is no cost without a rate. -/
  idle : rps.value? = some 0 → cost = .zero false
  /-- The cost is infinite if the scaled time is. -/
  overflows : ∀ c r, cpu.value? = some c → rps.value? = some r → r ≠ 0 →
    overflow ≤ c * 1000 → cost = .infinite false
  /-- Otherwise it is the quotient. -/
  divides : ∀ c r, cpu.value? = some c → rps.value? = some r → r ≠ 0 →
    c * 1000 < overflow → ∃ k, (cpu.mul (.ofInt 1000)).value? = some k ∧ Carries (k / r) cost

theorem isCost_cpuCost {cpu rps : Binary64} (hcpu : cpu.IsMagnitude) (hrps : rps.IsMagnitude) :
  IsCost cpu rps (cpuCost cpu rps)
  := by
  have hthousand : (Binary64.ofInt 1000).IsMagnitude := isMagnitude_ofInt (n := 1000) (by decide)
  have hvalue : (Binary64.ofInt 1000).value? = some 1000 := value?_ofInt (n := 1000) (by decide)
  have hcost : ∀ r, rps.value? = some r → r ≠ 0 →
      cpuCost cpu rps = (cpu.mul (.ofInt 1000)).div rps := by
    intro r hr hne
    have hpositive : ¬ rps.isZero = true := (hrps.isZero_iff hr).not.2 hne
    apply if_neg hpositive
  have hzero : Binary64.ofInt 0 = .zero false := by decide +kernel
  constructor
  · intro hr
    have hnone : rps.isZero = true := (hrps.isZero_iff hr).2 rfl
    exact (if_pos hnone).trans hzero
  · intro c r hc hr hne hmore
    have hinfinite := (carries_mul hcpu hthousand hc hvalue).2 hmore
    obtain ⟨u, hu, rfl⟩ := hrps
    rw [hcost r hr hne, hinfinite]
    rfl
  · intro c r hc hr hne hless
    have hscaled := (carries_mul hcpu hthousand hc hvalue).1 hless
    obtain ⟨k, hk, -⟩ := hscaled.exists_value?
    use k, hk
    rw [hcost r hr hne]
    apply carries_div hscaled hrps hk hr hne

/-! ### Metrics -/

/-- Whether metrics are finite and have no sign, apart from the latency, which is as a text tells. -/
structure Metrics.IsTold (m : Metrics Binary64) (latency : Text) : Prop where
  rps : m.rps.IsMagnitude
  p99 : Latency.Tells latency m.p99
  cpu : m.cpu.IsMagnitude
  rss : m.rss.IsMagnitude

theorem isTold_of_metrics? {c : SheetCells} {m : Metrics Binary64} (h : c.metrics? = some m) :
  m.IsTold c.p99
  := by
  simp only [SheetCells.metrics?, Option.bind_eq_bind, Option.bind_eq_some_iff,
    Option.some.injEq] at h
  obtain ⟨rps, hrps, p99, hp99, cpu, hcpu, rss, hrss, rfl⟩ := h
  constructor
  · apply Numeral.exists_finite_of_unsigned? hrps
  · apply Latency.tells_of_microseconds? hp99
  · apply Numeral.exists_finite_of_unsigned? hcpu
  · apply Numeral.exists_finite_of_unsigned? hrss

/-- What a load line is read as: a rate, and the latency of one of its settings. -/
theorem exists_of_trafficLine {line : Text} {l : TrafficLine} (h : TrafficLine.read? line = some l) :
  ∃ settings latency, RoundLog.settings? line = some (l.scenario, settings)
    ∧ RoundLog.lastValue? "wrk_p99".toList settings = some latency
    ∧ l.rps.IsMagnitude ∧ Latency.Tells latency l.p99
  := by
  simp only [TrafficLine.read?, Option.bind_eq_bind, Option.bind_eq_some_iff,
    Option.some.injEq] at h
  obtain ⟨⟨scenario, settings⟩, hsettings, _, -, _, -, latency, hlatency, _, -, _, -, rps, hrps,
    p99, hp99, _, -, rfl⟩ := h
  exact ⟨settings, latency, hsettings, hlatency, Numeral.exists_finite_of_unsigned? hrps,
    Latency.tells_of_microseconds? hp99⟩

theorem exists_of_usageLine {line : Text} {u : UsageLine} (h : UsageLine.read? line = some u) :
  u.cpu.IsMagnitude ∧ u.rssKb < 0x8000000000000000
  := by
  simp only [UsageLine.read?, Option.bind_eq_bind, Option.bind_eq_some_iff,
    Option.some.injEq] at h
  obtain ⟨_, -, _, -, _, -, cpu, hcpu, rss, hrss, rfl⟩ := h
  use Numeral.exists_finite_of_unsigned? hcpu, Numeral.lt_of_natural? hrss

/-- The scenario of the settings is the one that the line is about. -/
theorem eq_of_settings? {line : Text} {s name : ScenarioName} {settings : List (Text × Text)}
    (hsubject : RoundLines.subject? line = some s)
    (hsettings : RoundLog.settings? line = some (name, settings)) :
  name = s
  := by
  unfold RoundLines.subject? at hsubject
  unfold RoundLog.settings? at hsettings
  split at hsubject
  · rename_i hfields
    rw [hfields] at hsettings
    obtain ⟨_, -, heq⟩ := Option.bind_eq_some_iff.1 hsettings
    obtain ⟨rfl, -⟩ := Prod.mk.inj (Option.some.inj heq)
    exact Option.some.inj hsubject
  · cases hsubject

/-- The metrics of a scenario are told by its last load line and its last resource line. -/
theorem exists_isTold_of_figures? {ls : List Text} {s : ScenarioName} {m : Metrics Binary64}
    (h : RoundLines.figures? ls s = some m) :
  ∃ line ∈ ls, ∃ settings latency, RoundLog.settings? line = some (s, settings)
    ∧ RoundLog.lastValue? "wrk_p99".toList settings = some latency ∧ m.IsTold latency
  := by
  simp only [RoundLines.figures?, Option.bind_eq_bind, Option.bind_eq_some_iff,
    Option.some.injEq] at h
  obtain ⟨load, hload, usage, -, l, hl, u, hu, rfl⟩ := h
  obtain ⟨hmem, hkind⟩ := List.mem_filter.1 (List.mem_of_getLast? hload)
  rw [RoundLines.isLoadLine_eq] at hkind
  obtain ⟨hsubject, -⟩ := Bool.and_eq_true_iff.1 hkind
  obtain ⟨settings, latency, hsettings, hlatency, hrps, hp99⟩ := exists_of_trafficLine hl
  obtain ⟨hcpu, hrss⟩ := exists_of_usageLine hu
  have hname := eq_of_settings? (beq_iff_eq.1 hsubject) hsettings
  rw [hname] at hsettings
  refine ⟨load, hmem, settings, latency, hsettings, hlatency, hrps, hp99, hcpu, ?_⟩
  dsimp only
  apply isMagnitude_ofInt
  omega

/-- No number that is read of a text is anything but finite and without a sign, unless it overflows:
the latencies where the product of the decimal and the factor of its unit does, and the processor
costs where the scaled time does or its quotient by the rate.  What overflows is infinite. -/
theorem finite_unless_overflow (t : Text) (wanted : List ScenarioName) :
  (∀ y, Latency.microseconds? t = some y → Latency.Tells t y)
    ∧ (∀ round, Round.ofText t wanted = .ok round →
      ∀ s m, Table.get? s round = some m → ∃ line ∈ Text.lines t, ∃ settings latency,
        RoundLog.settings? line = some (s, settings)
          ∧ RoundLog.lastValue? "wrk_p99".toList settings = some latency ∧ m.IsTold latency)
    ∧ (∀ b, Baseline.ofText t wanted = .ok b →
      ∀ s e, Table.get? s b = some e → ∃ line ∈ Text.lines t, ∃ c,
        SheetCells.ofLine? line = some c ∧ c.scenario = s
          ∧ e.toMetrics.IsTold c.p99 ∧ IsCost e.cpu e.rps e.cpuCost)
  := by
  refine ⟨fun y => Latency.tells_of_microseconds?, ?_, ?_⟩
  · intro round hround s m hm
    rw [Round.ofText_eq_ofLines] at hround
    obtain ⟨hkeys, hfigures⟩ := Round.get?_of_ofLines hround s
    have hs : s ∈ wanted := by
      apply hkeys.1
      rw [Table.has, hm]
      rfl
    rw [hfigures hs] at hm
    apply exists_isTold_of_figures? hm
  · intro b hb s e he
    obtain ⟨-, hentries⟩ := Baseline.exists_line_of_ofText hb
    obtain ⟨line, hline, c, hcells, hname, hentry⟩ := hentries s e he
    obtain ⟨m, hm, rfl⟩ := Option.map_eq_some_iff.1 hentry
    have htold := isTold_of_metrics? hm
    exact ⟨line, hline, c, hcells, hname, htold, isCost_cpuCost htold.cpu htold.rps⟩

/-! ### Within the bound and past it -/

/-- A log of one scenario. -/
def plainLog : Text := Text.unlines
  ["a wrk_requests=9 wrk_rps=1000.5 wrk_p99=1.25ms wrk_latency_avg=n/a".toList,
    "a cpu_pct=45.00 peak_rss_kb=4096".toList]

/-- A sheet with a row for some cells. -/
def sheetOf (rps p99 cpu : Text) : Text := Text.unlines
  ["## Results".toList,
    "| `a` | ".toList ++ rps ++ " | ".toList ++ p99 ++ " | n/a | ".toList ++ cpu ++
      " | 4000KB | x |".toList]

/-- A one with zeros behind it. -/
def largeNumeral (zeros : Nat) : Text := '1' :: List.replicate zeros '0'

/-- The sheet with a row of ordinary cells. -/
def plainSheet : Text := sheetOf "1000.50".toList "1.25ms".toList "45.00%".toList

theorem finite_unless_overflow_plain :
  ∃ round m b e, Round.ofText plainLog ["a".toList] = .ok round
    ∧ Table.get? "a".toList round = some m ∧ (∃ latency, m.IsTold latency)
    ∧ Baseline.ofText plainSheet ["a".toList] = .ok b
    ∧ Table.get? "a".toList b = some e ∧ (∃ latency, e.toMetrics.IsTold latency)
    ∧ IsCost e.cpu e.rps e.cpuCost
  := by
  obtain ⟨-, hrounds, -⟩ := finite_unless_overflow plainLog ["a".toList]
  obtain ⟨-, -, hbaselines⟩ := finite_unless_overflow plainSheet ["a".toList]
  have hround : ((Round.ofText plainLog ["a".toList]).toOption.bind (Table.get? "a".toList)).isSome =
      true := by
    decide +kernel
  have hbaseline : ((Baseline.ofText plainSheet ["a".toList]).toOption.bind
      (Table.get? "a".toList)).isSome = true := by
    decide +kernel
  obtain ⟨m, hm⟩ := Option.isSome_iff_exists.1 hround
  obtain ⟨e, he⟩ := Option.isSome_iff_exists.1 hbaseline
  obtain ⟨round, hround, hm⟩ := Option.bind_eq_some_iff.1 hm
  obtain ⟨b, hb, he⟩ := Option.bind_eq_some_iff.1 he
  have hround := eq_ok_of_toOption_eq_some hround
  have hb := eq_ok_of_toOption_eq_some hb
  obtain ⟨-, -, -, latency, -, -, hm'⟩ := hrounds _ hround _ _ hm
  obtain ⟨-, -, c, -, -, he', hcost⟩ := hbaselines _ hb _ _ he
  exact ⟨round, m, b, e, hround, hm, ⟨latency, hm'⟩, hb, he, ⟨c.p99, he'⟩, hcost⟩

/-- A latency is infinite though its decimal is finite, and so is a cost. -/
theorem infinite_of_large :
  Latency.microseconds? (largeNumeral 304 ++ ['s']) = some (.infinite false)
    ∧ ((Baseline.ofText
        (sheetOf "0.001".toList (largeNumeral 304 ++ ['s']) (largeNumeral 305 ++ ['%']))
        ["a".toList]).toOption.bind fun b =>
      (Table.get? "a".toList b).map fun e => (e.p99, e.cpuCost)) =
        some (.infinite false, .infinite false)
  := by
  decide +kernel

end PerfGate
