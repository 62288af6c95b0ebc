import PerfGate.Measure
import PerfGate.Proofs.Log.Line
import PerfGate.Proofs.Log.Summary

/-!
# The log of a scenario

A scenario that was run leaves two lines, written from the summary of its load run and from its use
of resources.  Read back, they give metrics only if none of these is missing: a number that the
summary lacks is written as if it were known, but a summary without totals is refused before and a
missing latency is refused when it is read.
-/

namespace PerfGate

open Binary64

/-- What the log of one scenario says, written and read back. -/
def Bench.loggedRound (s : Scenario) (output : Text) (usage : Usage) :
    Except RoundError (Round Binary64) := do
  let ls ← Bench.logLines s output usage
  Round.ofText (Text.unlines ls) [s.id]

/-! ### What is refused when it is read -/

/-- A missing 99th percentile is refused. -/
theorem microseconds?_getD_eq_some_iff {o : Option Text} {p99 : Binary64} :
  Latency.microseconds? (o.getD TrafficLine.unknownLatency) = some p99 ↔
    ∃ token, o = some token ∧ Latency.microseconds? token = some p99
  := by
  have hunknown : Latency.microseconds? TrafficLine.unknownLatency = none := by decide +kernel
  cases o with
  | none => simp [hunknown]
  | some token => simp

/-- An average latency that is given has to be known by its value. -/
theorem exists_readAverage?_getD_iff {o : Option Text} :
  (∃ average, TrafficLine.readAverage? (o.getD TrafficLine.unknownLatency) = some average) ↔
    ∀ token, o = some token →
      token = TrafficLine.unknownLatency ∨ (Latency.microseconds? token).isSome = true
  := by
  unfold TrafficLine.readAverage?
  cases o with
  | none => simp
  | some token =>
    by_cases htoken : token = TrafficLine.unknownLatency
    · simp [htoken]
    · simp [htoken, Option.isSome_iff_exists]

theorem eq_of_units?_nonneg {x : Binary64} {u : Int} (h : x.units? = some u) (hnonneg : 0 ≤ u) :
  (∃ v hv, x = .finite false v hv ∧ u = v) ∨ x = .zero true
  := by
  cases x with
  | infinite s => cases h
  | nan s => cases h
  | finite s v hv =>
    obtain rfl := Option.some.inj h
    cases s with
    | false =>
      left
      exact ⟨v, hv, rfl, rfl⟩
    | true =>
      right
      obtain rfl : v = 0 := by simpa using hnonneg
      rfl

section Time

variable {cpu : Binary64} {u : Int} (hcpu : cpu.units? = some u) (hnonneg : 0 ≤ u) {n : Nat}
  (hlimit : u < (10 ^ n * unitsPerOne : Nat))

include hcpu hnonneg hlimit

/-- A processor time that is not negative is refused only for its sign. -/
theorem unsigned?_fixed_eq_some_iff (hn : n ≤ 100) {y : Binary64} :
  Numeral.unsigned? (cpu.fixed 2) = some y ↔
    cpu ≠ .zero true ∧ y = SheetRow.nearestHundredth cpu
  := by
  rcases eq_of_units?_nonneg hcpu hnonneg with ⟨v, hv, rfl, rfl⟩ | rfl
  · rw [Numeral.unsigned?_fixed_two hv hn (Int.ofNat_lt.1 hlimit)]
    simp [zero, eq_comm]
  · constructor
    · intro h
      obtain ⟨⟨v, hv, hfinite⟩, -⟩ := SheetRow.eq_nearestHundredth h
      cases hfinite
    · rintro ⟨hne, -⟩
      cases hne rfl

/-- A processor time that is not negative is written with few characters. -/
theorem length_fixed_le_of_units? : (cpu.fixed 2).length ≤ n + 5 := by
  rcases eq_of_units?_nonneg hcpu hnonneg with ⟨v, hv, rfl, rfl⟩ | rfl
  · have hwidth := Numeral.length_fixed_two_le (s := false) hv (Int.ofNat_lt.1 hlimit)
    have hsign : (signMark false).length = 0 := rfl
    omega
  · have hzero : ((zero true).fixed 2).length = 5 := by decide +kernel
    omega

end Time

/-! ### What is written is read back -/

/-- A rate of up to sixty digits is read back. -/
theorem unsigned?_take_rateWidth {u : Nat} (hu : FitsBinary64 u) (hlimit : u < 10 ^ 59 * unitsPerOne) :
  Numeral.unsigned? (((Binary64.finite false u hu).fixed 2).take TrafficLine.rateWidth) =
    some (SheetRow.nearestHundredth (.finite false u hu))
  := by
  have hwidth := Numeral.length_fixed_two_le (s := false) hu hlimit
  rw [List.take_of_length_le (by simpa [TrafficLine.rateWidth, signMark] using hwidth)]
  apply Numeral.unsigned?_fixed_two hu (by omega) hlimit

/-- The lines of a scenario whose summary has its totals are read back but for the latencies and
the sign of the processor time. -/
theorem ofText_logLines {s : Scenario} {summary : LoadSummary} {rate cpu : Binary64}
    {requests rssKb : Nat} (hid : s.id.IsField)
    (hmark : Text.occursIn RoundLines.loadMark s.id = false)
    (hrps : summary.rps = some rate) (hrequests : summary.requests = some requests)
    (hlatencies : RoundLog.CanWrite (TrafficLine.settings requests rate summary))
    (hrequests' : requests < 0x8000000000000000)
    (hrate : Numeral.unsigned? ((rate.fixed 2).take TrafficLine.rateWidth) =
      some (SheetRow.nearestHundredth rate))
    (hlength : (cpu.fixed 2).length + (Decimal.digits rssKb).length ≤ 73)
    (hrss : rssKb < 0x8000000000000000) (round : Round Binary64) :
  Round.ofText (Text.unlines [TrafficLine.write s.id summary, UsageLine.write s.id cpu rssKb])
      [s.id] = .ok round ↔
    ∃ p99 average time,
      Latency.microseconds? (summary.p99.getD TrafficLine.unknownLatency) = some p99
        ∧ TrafficLine.readAverage? (summary.latencyAvg.getD TrafficLine.unknownLatency) = some average
        ∧ Numeral.unsigned? (cpu.fixed 2) = some time
        ∧ round = [(s.id, { rps := SheetRow.nearestHundredth rate, p99, cpu := time, rss := .ofInt rssKb })]
  := by
  obtain ⟨hother, husage⟩ := UsageLine.isUsageLine_lineOf hid hmark cpu rssKb
  have hload := TrafficLine.isLoadLine_lineOf hid hlatencies
  have hlines : ∀ l ∈ [RoundLog.lineOf s.id (TrafficLine.settings requests rate summary),
      RoundLog.lineOf s.id (UsageLine.settings cpu rssKb)], Text.IsLine l := by
    simp only [List.forall_mem_cons]
    exact ⟨RoundLog.isLine_lineOf hid hlatencies,
      RoundLog.isLine_lineOf hid UsageLine.canWrite_settings, by simp⟩
  rw [TrafficLine.write_eq_lineOf hrequests hrps, UsageLine.write_eq_lineOf hlength,
    Round.ofText_eq_ofLines, Text.lines_unlines hlines, Round.ofLines_pair hload hother husage,
    TrafficLine.read?_lineOf hid hlatencies hrequests', UsageLine.read?_lineOf hid hrss, hrate]
  cases Latency.microseconds? (summary.p99.getD TrafficLine.unknownLatency) with
  | none => simp
  | some p99 =>
    cases TrafficLine.readAverage? (summary.latencyAvg.getD TrafficLine.unknownLatency) with
    | none => simp
    | some average =>
      cases Numeral.unsigned? (cpu.fixed 2) with
      | none => simp
      | some time => simp [eq_comm]

namespace Bench

section LogLines

variable {s : Scenario} {output : Text} {usage : Usage}

theorem loggedRound_ne_ok
    (h : (LoadSummary.ofText output).rps = none ∨ (LoadSummary.ofText output).requests = none)
    (round : Round Binary64) :
  loggedRound s output usage ≠ .ok round
  := by
  intro hok
  obtain ⟨ls, hls, -⟩ := exists_ok_of_bind_eq_ok hok
  unfold logLines at hls
  dsimp only at hls
  rw [if_pos (by rcases h with h | h <;> simp [h])] at hls
  cases hls

theorem loggedRound_of_totals {rate : Binary64} {requests : Int}
    (hrps : (LoadSummary.ofText output).rps = some rate)
    (hrequests : (LoadSummary.ofText output).requests = some requests) :
  loggedRound s output usage = Round.ofText
    (Text.unlines [TrafficLine.write s.id (LoadSummary.ofText output),
      UsageLine.write s.id usage.cpu usage.rssKb]) [s.id]
  := by
  unfold loggedRound logLines
  dsimp only
  rw [hrps, hrequests]
  rfl

/-- A scenario has metrics exactly if its load run gave a rate, a number of requests and a 99th
percentile, no latency is unreadable, and the processor time is not the negative zero.  The
metrics are then those values, the rate and the processor time to two places. -/
theorem loggedRound_eq_ok_iff {u : Int} (hreturn : '\r' ∉ output) (hne : s.id ≠ [])
    (hblank : ∀ c ∈ s.id, Text.isBlank c = false)
    (hmark : Text.occursIn RoundLines.loadMark s.id = false) (hcpu : usage.cpu.units? = some u)
    (hnonneg : 0 ≤ u) (hlimit : u < (10 ^ 50 * unitsPerOne : Nat)) (hrss : 0 ≤ usage.rssKb)
    (hrss' : usage.rssKb ≤ (2 ^ 53 : Nat))
    (hrate : ∀ x v, (LoadSummary.ofText output).rps = some x → x.units? = some v →
      v < (10 ^ 59 * unitsPerOne : Nat)) :
  (Binary64.ofInt usage.rssKb).units? = some (usage.rssKb * unitsPerOne)
    ∧ ∀ round, loggedRound s output usage = .ok round ↔
      ∃ rate requests token p99, (LoadSummary.ofText output).rps = some rate
        ∧ (LoadSummary.ofText output).requests = some requests
        ∧ (LoadSummary.ofText output).p99 = some token
        ∧ Latency.microseconds? token = some p99
        ∧ (∀ average, (LoadSummary.ofText output).latencyAvg = some average →
          average = TrafficLine.unknownLatency ∨ (Latency.microseconds? average).isSome = true)
        ∧ usage.cpu ≠ .zero true
        ∧ round = [(s.id,
          { rps := SheetRow.nearestHundredth rate, p99, cpu := SheetRow.nearestHundredth usage.cpu,
            rss := .ofInt usage.rssKb })]
  := by
  obtain ⟨rssKb, hrssKb⟩ := Int.eq_ofNat_of_zero_le hrss
  have hsmall : rssKb ≤ 2 ^ 53 := by omega
  constructor
  · rw [hrssKb]
    apply Binary64.units?_ofInt hsmall
  intro round
  cases hrps : (LoadSummary.ofText output).rps with
  | none => simp [loggedRound_ne_ok (Or.inl hrps)]
  | some rate =>
    cases hrequests : (LoadSummary.ofText output).requests with
    | none => simp [loggedRound_ne_ok (Or.inr hrequests)]
    | some n =>
      obtain ⟨text, requests, hread, rfl⟩ := (LoadSummary.isFrom_ofText output).requests n hrequests
      obtain ⟨text', hread'⟩ := (LoadSummary.isFrom_ofText output).rps rate hrps
      obtain ⟨v, hv, rfl⟩ := Numeral.exists_finite_of_unsigned? hread'
      have hv' : v < 10 ^ 59 * unitsPerOne := Int.ofNat_lt.1 (hrate _ v hrps rfl)
      have hlatencies := TrafficLine.canWrite_settings (n := requests) (x := .finite false v hv)
        (fun t ht => LoadSummary.isField_of_ofText hreturn (Or.inl ht))
        (fun t ht => LoadSummary.isField_of_ofText hreturn (Or.inr ht))
      have hlength : (usage.cpu.fixed 2).length + (Decimal.digits rssKb).length ≤ 73 := by
        have htime := length_fixed_le_of_units? hcpu hnonneg hlimit
        have hdigits := Decimal.length_digits_le (n := rssKb) (w := 15) (by omega)
        omega
      rw [loggedRound_of_totals hrps hrequests, hrssKb,
        ofText_logLines (Text.isField_of_isBlank hne hblank) hmark hrps hrequests hlatencies
          (Numeral.lt_of_natural? hread) (unsigned?_take_rateWidth hv hv') hlength (by omega)]
      constructor
      · rintro ⟨p99, average, time, hp99, haverage, htime, rfl⟩
        obtain ⟨token, htoken, hp99⟩ := microseconds?_getD_eq_some_iff.1 hp99
        obtain ⟨hsign, rfl⟩ :=
          (unsigned?_fixed_eq_some_iff hcpu hnonneg hlimit (by omega)).1 htime
        have haverage := exists_readAverage?_getD_iff.1 ⟨average, haverage⟩
        exact ⟨_, _, token, p99, rfl, rfl, htoken, hp99, haverage, hsign, rfl⟩
      · rintro ⟨_, _, token, p99, ⟨rfl⟩, -, htoken, hp99, haverage, hsign, rfl⟩
        obtain ⟨average, haverage⟩ := exists_readAverage?_getD_iff.2 haverage
        have htime := (unsigned?_fixed_eq_some_iff hcpu hnonneg hlimit (by omega)).2 ⟨hsign, rfl⟩
        have hp99 := microseconds?_getD_eq_some_iff.2 ⟨token, htoken, hp99⟩
        exact ⟨p99, average, _, hp99, haverage, htime, rfl⟩

end LogLines

/-- A scenario on its own. -/
def soloScenario : Scenario where
  id := "solo".toList
  stream := false
  injectTools := false
  model := []
  topology := .single

/-- What a load run of that scenario printed. -/
def soloOutput : Text := Text.unlines
  ["  Latency   1.20ms".toList, "    99%    4.75ms".toList,
    "  12345 requests in 10.00s".toList, "Requests/sec:   1234.567".toList]

/-- What the service used in the meantime. -/
def soloUsage : Usage where
  cpu := .ofInt 12
  rssKb := 4096

/-- Its round has the scenario with its metrics. -/
theorem loggedRound_solo :
  ∃ metrics, loggedRound soloScenario soloOutput soloUsage =
    .ok [(soloScenario.id, metrics)]
  := by
  obtain ⟨rate, hrate⟩ := Option.isSome_iff_exists.1
    (by decide +kernel : (LoadSummary.ofText soloOutput).rps.isSome = true)
  obtain ⟨p99, hp99⟩ := Option.isSome_iff_exists.1
    (by decide +kernel : (Latency.microseconds? "4.75ms".toList).isSome = true)
  have hreturn : '\r' ∉ soloOutput := by decide +kernel
  have hblank : ∀ c ∈ soloScenario.id, Text.isBlank c = false := by
    have hall : soloScenario.id.all (fun c => !Text.isBlank c) = true := by decide
    simpa using hall
  have hcpu : soloUsage.cpu.units? = some (12 * unitsPerOne) := by decide +kernel
  have hbound : ((LoadSummary.ofText soloOutput).rps.bind units?).all
      (fun v => decide (v < ((10 ^ 59 * unitsPerOne : Nat) : Int))) = true := by
    decide +kernel
  have hrate' : ∀ x v, (LoadSummary.ofText soloOutput).rps = some x → x.units? = some v →
      v < (10 ^ 59 * unitsPerOne : Nat) := by
    intro x v hx hv
    rw [hx, Option.bind_some, hv] at hbound
    apply of_decide_eq_true hbound
  obtain ⟨-, hiff⟩ := loggedRound_eq_ok_iff (s := soloScenario) hreturn (by decide)
    hblank (by decide) hcpu (by decide +kernel) (by decide +kernel) (by decide) (by decide) hrate'
  refine ⟨_, (hiff _).2 ⟨rate, 12345, "4.75ms".toList, p99, hrate, by decide +kernel,
    by decide +kernel, hp99, ?_, by decide +kernel, rfl⟩⟩
  intro average haverage
  right
  obtain rfl : average = "1.20ms".toList := by
    apply Option.some.inj
    rw [← haverage]
    decide +kernel
  decide +kernel

/-- With the negative zero for its processor time the round is refused. -/
theorem loggedRound_negative_zero :
  (Binary64.zero false).le (.zero true) = true
    ∧ (loggedRound soloScenario soloOutput { cpu := .zero false, rssKb := 4096 }).toOption.isSome
    ∧ loggedRound soloScenario soloOutput { cpu := .zero true, rssKb := 4096 } = .error
      (.resourcesUnreadable "solo".toList "solo cpu_pct=-0.00 peak_rss_kb=4096".toList)
  := by
  decide +kernel

end Bench

end PerfGate
