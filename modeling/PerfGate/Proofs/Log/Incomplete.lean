import PerfGate.Proofs.Log.Scenario
import PerfGate.Proofs.Numeral.Grammar

/-!
# Load lines of incomplete summaries

A load line is written for any summary.  It is refused for its placeholder if the summary has no
99th percentile, but the placeholder of a rate or of a number of requests is a zero that is read
like a measured one (`read?_write_eq_none_iff`).
-/

namespace PerfGate

/-! ### Incomplete summaries -/

namespace TrafficLine

/-- The rate of a summary as it is written. -/
def writtenRate (s : LoadSummary) : Text :=
  match s.rps with
  | some x => (x.fixed 2).take rateWidth
  | none => ['0']

/-- The settings of the load line of a summary. -/
def settingsOf (s : LoadSummary) : List (Text × Text) :=
  [("wrk_requests".toList, Decimal.signed (s.requests.getD 0)),
    ("wrk_rps".toList, writtenRate s), ("wrk_p99".toList, s.p99.getD unknownLatency),
    ("wrk_latency_avg".toList, s.latencyAvg.getD unknownLatency)]

variable {scenario : ScenarioName} {s : LoadSummary}

theorem write_eq_lineOf_settingsOf (scenario : ScenarioName) (s : LoadSummary) :
  write scenario s = RoundLog.lineOf scenario (settingsOf s)
  := by
  simp only [write, RoundLog.lineOf, settingsOf, writtenRate, List.flatMap_cons, List.flatMap_nil,
    List.append_assoc, List.cons_append, List.append_nil]
  rfl

theorem isGap_of_isBlank {c : Char} (h : Text.isBlank c = false) :
  Text.isGap c = false
  := by
  simp only [Text.isBlank, Bool.or_eq_false_iff] at h
  simp [Text.isGap, h]

theorem isGap_of_mem_getD {o : Option Text} (h : ∀ t, o = some t → ∀ c ∈ t, Text.isGap c = false)
    {c : Char} (hc : c ∈ o.getD unknownLatency) :
  Text.isGap c = false
  := by
  cases o with
  | none =>
    have hplain : unknownLatency.all (fun c => !Text.isGap c) = true := by decide
    simpa using List.all_eq_true.1 hplain c hc
  | some t => apply h t rfl c hc

theorem isGap_of_mem_writtenRate {c : Char} (hc : c ∈ writtenRate s) :
  Text.isGap c = false
  := by
  unfold writtenRate at hc
  split at hc
  · apply isGap_of_isBlank (SheetRow.isFigure_of_mem_fixed (List.mem_of_mem_take hc)).isBlank
  · obtain rfl := List.mem_singleton.1 hc
    rfl

/-- The settings of a load line are found again if the latencies have no gaps. -/
theorem canFind_settingsOf
    (hlatencies : ∀ t, s.p99 = some t ∨ s.latencyAvg = some t → ∀ c ∈ t, Text.isGap c = false) :
  RoundLog.CanFind (settingsOf s)
  := by
  have hkey : ∀ key ∈ ["wrk_requests".toList, "wrk_rps".toList, "wrk_p99".toList,
      "wrk_latency_avg".toList], key ≠ [] ∧ '=' ∉ key ∧ ∀ c ∈ key, Text.isGap c = false := by
    have hplain : ["wrk_requests".toList, "wrk_rps".toList, "wrk_p99".toList,
        "wrk_latency_avg".toList].all (fun key => key.all fun c => !Text.isGap c) = true := by
      decide
    intro key hmem
    refine ⟨?_, ?_, ?_⟩
    · rintro rfl
      revert hmem
      decide
    · revert key
      decide
    · intro c hc
      simpa using List.all_eq_true.1 (List.all_eq_true.1 hplain key hmem) c hc
  have hvalue : ∀ p ∈ settingsOf s, ∀ c ∈ p.2, Text.isGap c = false := by
    simp only [settingsOf, List.forall_mem_cons]
    refine ⟨?_, ?_, ?_, ?_, nofun⟩
    · intro c hc
      apply isGap_of_isBlank (Numeral.isBlank_of_mem_signed hc)
    · intro c hc
      apply isGap_of_mem_writtenRate hc
    · intro c hc
      apply isGap_of_mem_getD (fun t ht => hlatencies t (Or.inl ht)) hc
    · intro c hc
      apply isGap_of_mem_getD (fun t ht => hlatencies t (Or.inr ht)) hc
  intro p hp
  have hp' : p.1 ∈ (settingsOf s).map Prod.fst := List.mem_map_of_mem hp
  obtain ⟨hne, heq, hgap⟩ := hkey p.1 hp'
  exact ⟨hne, heq, hgap, hvalue p hp⟩

/-- A written load line is read as the numbers that are written in it, if there is a scenario. -/
theorem read?_write (hscenario : ∀ c ∈ scenario, Text.isGap c = false)
    (hlatencies : ∀ t, s.p99 = some t ∨ s.latencyAvg = some t → ∀ c ∈ t, Text.isGap c = false) :
  read? (write scenario s) =
    if scenario = [] then none
    else
      (Numeral.natural? (Decimal.signed (s.requests.getD 0))).bind fun requests =>
        (Numeral.unsigned? (writtenRate s)).bind fun rps =>
          (Latency.microseconds? (s.p99.getD unknownLatency)).bind fun p99 =>
            (readAverage? (s.latencyAvg.getD unknownLatency)).bind fun latencyAvg =>
              some { scenario, requests, rps, p99, latencyAvg }
  := by
  have hfind := canFind_settingsOf hlatencies
  have hsettings := RoundLog.settings?_lineOf_of_canFind hscenario hfind
  rw [read?, write_eq_lineOf_settingsOf, settingsOf, hsettings]
  split
  · rfl
  · rfl

/-! ### What is refused -/

/-- A number of requests is refused if it is negative or too large for a word. -/
theorem natural?_signed_eq_none_iff {n : Int} :
  Numeral.natural? (Decimal.signed n) = none ↔ n < 0 ∨ 2 ^ 63 ≤ n
  := by
  have htrim : Text.trim (Decimal.signed n) = Decimal.signed n := by
    apply Text.trim_eq_self
    · intro c hc
      apply Numeral.isBlank_of_mem_signed (List.mem_of_head? hc)
    · intro c hc
      apply Numeral.isBlank_of_mem_signed (List.mem_of_getLast? hc)
  rw [Option.eq_none_iff_forall_ne_some]
  simp only [ne_eq, Numeral.natural?_eq_some_iff, htrim]
  rcases Int.lt_or_le n 0 with hneg | hnonneg
  · have hsign : Decimal.signed n = '-' :: Decimal.digits n.natAbs := by
      rw [Decimal.signed, if_pos hneg]
    simp only [hneg, true_or, iff_true]
    rintro k ⟨-, hdigits, -⟩
    cases hdigits '-' (by rw [hsign]; apply List.mem_cons_self)
  · obtain ⟨m, rfl⟩ := Int.eq_ofNat_of_zero_le hnonneg
    have hdigits := Decimal.isDigits_digits m
    simp only [Decimal.signed_natCast, Decimal.value_digits, hdigits, Decimal.digits_ne_nil,
      not_and, not_false_eq_true, true_and, forall_eq']
    omega

theorem unsigned?_writtenRate_of_none (h : s.rps = none) :
  Numeral.unsigned? (writtenRate s) = some (.zero false)
  := by
  have hzero : Numeral.unsigned? ['0'] = some (.zero false) := by decide +kernel
  unfold writtenRate
  rw [h]
  apply hzero

/-- The latency that is written is refused if it is missing or unreadable. -/
theorem microseconds?_getD_eq_none_iff {o : Option Text} :
  Latency.microseconds? (o.getD unknownLatency) = none ↔ o.bind Latency.microseconds? = none
  := by
  rw [Option.eq_none_iff_forall_ne_some, Option.eq_none_iff_forall_ne_some]
  apply forall_congr'
  intro y
  rw [ne_eq, microseconds?_getD_eq_some_iff, ne_eq, Option.bind_eq_some_iff]

/-- A load line is refused for a 99th percentile that is missing or unreadable, and otherwise only
for something that the summary has and that is unreadable, or for want of a scenario.  A missing
number of requests and a missing rate are read as zero. -/
theorem read?_write_eq_none_iff (hscenario : ∀ c ∈ scenario, Text.isGap c = false)
    (hlatencies : ∀ t, s.p99 = some t ∨ s.latencyAvg = some t → ∀ c ∈ t, Text.isGap c = false) :
  (read? (write scenario s) = none ↔
    s.p99.bind Latency.microseconds? = none
      ∨ (∃ n, s.requests = some n ∧ (n < 0 ∨ 2 ^ 63 ≤ n))
      ∨ (∃ x, s.rps = some x ∧ Numeral.unsigned? ((x.fixed 2).take rateWidth) = none)
      ∨ (∃ t, s.latencyAvg = some t ∧ readAverage? t = none)
      ∨ scenario = [])
    ∧ ∀ line, read? (write scenario s) = some line →
      (s.requests = none → line.requests = 0) ∧ (s.rps = none → line.rps = .zero false)
  := by
  have hrequests : Numeral.natural? (Decimal.signed (s.requests.getD 0)) = none ↔
      ∃ n, s.requests = some n ∧ (n < 0 ∨ 2 ^ 63 ≤ n) := by
    rw [natural?_signed_eq_none_iff]
    cases s.requests with
    | none => simp
    | some n => simp
  have hrate : Numeral.unsigned? (writtenRate s) = none ↔
      ∃ x, s.rps = some x ∧ Numeral.unsigned? ((x.fixed 2).take rateWidth) = none := by
    cases hrps : s.rps with
    | none => simp [unsigned?_writtenRate_of_none hrps]
    | some x => simp [writtenRate, hrps]
  have haverage : readAverage? (s.latencyAvg.getD unknownLatency) = none ↔
      ∃ t, s.latencyAvg = some t ∧ readAverage? t = none := by
    cases s.latencyAvg with
    | none => simp [readAverage?]
    | some t => simp
  have hzero : Numeral.natural? (Decimal.signed (0 : Nat)) = some 0 := by
    rw [Decimal.signed_natCast, Numeral.natural?_digits (by decide)]
  rw [read?_write hscenario hlatencies, ← hrequests, ← hrate, ← haverage,
    ← microseconds?_getD_eq_none_iff]
  by_cases hnil : scenario = []
  · simp [hnil]
  · rw [if_neg hnil]
    cases hn : Numeral.natural? (Decimal.signed (s.requests.getD 0)) with
    | none => simp
    | some n =>
      cases hx : Numeral.unsigned? (writtenRate s) with
      | none => simp
      | some x =>
        cases Latency.microseconds? (s.p99.getD unknownLatency) with
        | none => simp
        | some p99 =>
          cases readAverage? (s.latencyAvg.getD unknownLatency) with
          | none => simp
          | some average =>
            constructor
            · simp [hnil]
            · rintro line hline
              obtain rfl := Option.some.inj hline
              constructor
              · intro hmissing
                rw [hmissing] at hn
                apply Option.some.inj (hn.symm.trans hzero)
              · intro hmissing
                apply Option.some.inj (hx.symm.trans (unsigned?_writtenRate_of_none hmissing))

/-- A line without a 99th percentile is refused, though all else is known. -/
theorem read?_write_eq_none_of_no_percentile :
  let scenario : ScenarioName := "solo".toList
  let s : LoadSummary :=
    { requests := some 10, rps := some (.ofInt 5), latencyAvg := some "1ms".toList }
  (∀ c ∈ scenario, Text.isGap c = false)
    ∧ (∀ t, s.p99 = some t ∨ s.latencyAvg = some t → ∀ c ∈ t, Text.isGap c = false)
    ∧ read? (write scenario s) = none
  := by
  intro scenario s
  have hscenario : ∀ c ∈ scenario, Text.isGap c = false := by
    have hplain : scenario.all (fun c => !Text.isGap c) = true := by decide
    simpa using hplain
  have hlatencies : ∀ t, s.p99 = some t ∨ s.latencyAvg = some t →
      ∀ c ∈ t, Text.isGap c = false := by
    have hplain : "1ms".toList.all (fun c => !Text.isGap c) = true := by decide
    rintro t (hp99 | haverage) c hc
    · cases hp99
    · obtain rfl := Option.some.inj haverage
      simpa using List.all_eq_true.1 hplain c hc
  use hscenario, hlatencies
  apply (read?_write_eq_none_iff hscenario hlatencies).1.2
  left
  rfl

/-- A line with a 99th percentile and nothing else is read as if no request had been counted. -/
theorem read?_write_of_no_totals :
  read? (write "solo".toList { p99 := some "1ms".toList }) = some
    { scenario := "solo".toList, requests := 0, rps := .zero false, p99 := .ofInt 1000
      latencyAvg := none }
  := by
  decide +kernel

end TrafficLine

end PerfGate
