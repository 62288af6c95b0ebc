import Mathlib.Tactic.FinCases
import PerfGate.Baseline.Entry
import PerfGate.Proofs.Binary64.Fixed

/-!
# Reading written cells back

A recut writes the rate, the latency in milliseconds and the processor time with two places.
What is read back from these cells is the nearest number of hundredths, which may lie on either
side of the number that was written.  A cell keeps its first characters only: a rate that does
not fit loses its last digits, and a longer latency or percentage is not read back at all.
-/

namespace PerfGate

open Binary64

namespace SheetRow

/-! ### What is read back -/

/-- The number of characters that hundredths lose in a cell of their own. -/
def lostChars (hundredths : Nat) : Nat :=
  (Decimal.digits (hundredths / 100)).length + 3 - cellWidth

/-- The number that hundredths are read back as from a cell of their own. -/
def keptHundredths (hundredths : Nat) : Binary64 :=
  let lost := lostChars hundredths
  if lost = 0 then ofFraction hundredths 100
  else if lost = 1 then ofFraction (hundredths / 10) 10
  else ofFraction (hundredths / 10 ^ (lost - 1)) 1

/-- The rate that is read back for a rate. -/
def recordedRate : Binary64 → Binary64
  | .finite _ u _ => keptHundredths (stepsAt 2 u)
  | x => x

/-- The number of hundredths nearest to a number. -/
def nearestHundredth : Binary64 → Binary64
  | .finite _ u _ => ofFraction (stepsAt 2 u) 100
  | x => x

/-- The latency that is read back for a latency: it is written in thousands. -/
def recordedLatency (p99 : Binary64) : Binary64 :=
  (nearestHundredth (p99.div (.ofInt 1000))).mul (.ofInt 1000)

/-- The processor cost that is read back for a processor time and a rate. -/
def recordedCost (cpu rps : Binary64) : Binary64 :=
  cpuCost (nearestHundredth cpu) (recordedRate rps)

/-! ### Hundredths -/

theorem withPoint_two (hundredths : Nat) :
  withPoint 2 hundredths = Decimal.digits (hundredths / 100) ++ '.' :: behindPoint 2 hundredths
  := rfl

theorem fixed_two (u : Nat) (hu : FitsBinary64 u) :
  (Binary64.finite false u hu).fixed 2 = withPoint 2 (stepsAt 2 u)
  := by
  rw [fixed, signMark, if_neg Bool.false_ne_true, List.nil_append]

/-! ### The characters of a cell -/

/-- Whether a character can stand in a written number. -/
def IsFigure (c : Char) : Prop := Text.isDigit c = true ∨ c ∈ ['-', '.', 'i', 'n', 'f', 'a']

theorem isFigure_of_mem_fixed {x : Binary64} {places : Nat} {c : Char} (h : c ∈ x.fixed places) :
  IsFigure c
  := by
  have hsign : ∀ s, c ∈ signMark s → IsFigure c := by
    intro s hc
    cases s with
    | false => cases hc
    | true =>
      obtain rfl := List.mem_singleton.1 hc
      right
      simp
  cases x with
  | finite s u hu =>
    rcases List.mem_append.1 h with hc | hc
    · apply hsign s hc
    · rcases mem_withPoint hc with hdigit | rfl
      · left
        apply hdigit
      · right
        simp
  | infinite s =>
    rcases List.mem_append.1 h with hc | hc
    · apply hsign s hc
    · have hword : c ∈ ['i', 'n', 'f'] := hc
      right
      fin_cases hword <;> simp
  | nan s =>
    rcases List.mem_append.1 h with hc | hc
    · apply hsign s hc
    · have hword : c ∈ ['n', 'a', 'n'] := hc
      right
      fin_cases hword <;> simp

theorem IsFigure.isBlank {c : Char} (h : IsFigure c) :
  Text.isBlank c = false
  := by
  rcases h with hdigit | hmem
  · apply Text.isBlank_of_isDigit hdigit
  · fin_cases hmem <;> rfl

/-- A text of figures is trimmed. -/
theorem trim_of_isFigure {t : Text} (h : ∀ c ∈ t, IsFigure c) :
  Text.trim t = t
  := by
  apply Text.trim_eq_self
  · intro c hc
    apply (h c (List.mem_of_head? hc)).isBlank
  · intro c hc
    apply (h c (List.mem_of_getLast? hc)).isBlank

/-! ### Reading a number -/

/-- A number whose writing starts with a digit is finite and has no sign. -/
theorem exists_finite_of_head {x : Binary64} {d : Char} (hd : Text.isDigit d = true)
    (h : (x.fixed 2).head? = some d) :
  ∃ u hu, x = .finite false u hu
  := by
  cases x with
  | finite s u hu =>
    cases s with
    | false => use u, hu
    | true =>
      obtain rfl := Option.some.inj h
      cases hd
  | infinite s =>
    cases s <;> obtain rfl := Option.some.inj h <;> cases hd
  | nan s =>
    cases s <;> obtain rfl := Option.some.inj h <;> cases hd

theorem exists_finite_of_take {x : Binary64} {n : Nat} {whole places : Text}
    (hne : whole ≠ []) (hwhole : whole.IsDigits)
    (h : (x.fixed 2).take n = Numeral.written whole places) :
  ∃ u hu, x = .finite false u hu
  := by
  obtain ⟨d, rest, hd, hrest⟩ := Numeral.exists_cons_written hne hwhole places
  apply exists_finite_of_head hd
  rw [← List.take_append_drop n (x.fixed 2), h, hrest]
  rfl

/-- A number written with two places is read back as the nearest number of hundredths. -/
theorem eq_nearestHundredth {x y : Binary64} (h : Numeral.unsigned? (x.fixed 2) = some y) :
  (∃ u hu, x = .finite false u hu) ∧ y = nearestHundredth x
  := by
  obtain ⟨whole, places, hne, hwhole, hplaces, htrim, hy⟩ := Numeral.written_of_unsigned? h
  rw [trim_of_isFigure fun c hc => isFigure_of_mem_fixed hc] at htrim
  have htake : (x.fixed 2).take (x.fixed 2).length = Numeral.written whole places := by
    rw [List.take_length, htrim]
  obtain ⟨u, hu, rfl⟩ := exists_finite_of_take hne hwhole htake
  constructor
  · use u, hu
  · rw [fixed_two, withPoint_eq_written] at htrim
    obtain ⟨rfl, rfl⟩ := Numeral.written_inj (Decimal.digits_ne_nil _)
      (Decimal.isDigits_digits _) (isDigits_behindPoint _ _) hne hwhole hplaces htrim
    rw [hy, value_digits_behindPoint, length_behindPoint, nearestHundredth]
    rfl

/-- What the first characters of hundredths are read as, if they can be read. -/
theorem eq_keptHundredths {k : Nat} {whole places : Text} (hne : whole ≠ [])
    (hwhole : whole.IsDigits) (hplaces : places.IsDigits)
    (h : (withPoint 2 k).take cellWidth = Numeral.written whole places) :
  ofFraction (Decimal.value (whole ++ places)) (10 ^ places.length) = keptHundredths k
  := by
  have hvalue : Decimal.value (Decimal.digits (k / 100) ++ behindPoint 2 k) = k :=
    value_digits_behindPoint 2 k
  have hbehind := length_behindPoint 2 k
  have hdigits := Decimal.isDigits_digits (k / 100)
  have hdigits' := isDigits_behindPoint 2 k
  have hlost : lostChars k = (Decimal.digits (k / 100)).length + 3 - 63 := rfl
  have hnil := Decimal.digits_ne_nil (k / 100)
  have hnumber := Decimal.value_digits (k / 100)
  rw [withPoint_two, show cellWidth = 63 from rfl] at h
  unfold keptHundredths
  rw [hlost]
  generalize Decimal.digits (k / 100) = front at *
  generalize behindPoint 2 k = behind at *
  dsimp only
  rcases Numeral.take_written hnil hdigits hdigits' hne hwhole hplaces h with
    ⟨hmore, rfl, rfl⟩ | ⟨hfew, rfl, rfl⟩
  · -- the point is lost, and digits in front of it may be
    have hpower : 10 ^ (front.length + 3 - 63 - 1) = 100 * 10 ^ (front.length - 63) := by
      rw [show front.length + 3 - 63 - 1 = 2 + (front.length - 63) by omega, Nat.pow_add]
    rw [if_neg (by omega), if_neg (by omega), List.append_nil, Decimal.value_take hdigits, hnumber,
      hpower, Nat.div_div_eq_div_mul]
    rfl
  · rcases Nat.lt_or_ge front.length 61 with hall | hone
    · -- nothing is lost
      rw [if_pos (by omega), List.take_of_length_le (by omega), hvalue, hbehind]
      rfl
    · -- the last digit is lost
      have hone : front.length = 61 := by omega
      have hfront : front ++ behind.take 1 = (front ++ behind).take 62 := by
        rw [List.take_append, List.take_of_length_le (show front.length ≤ 62 by omega), hone]
      rw [if_neg (by omega), if_pos (by omega), hone, hfront,
        Decimal.value_take (hdigits.append hdigits'), hvalue, List.length_append, hone,
        List.length_take, hbehind]
      rfl

/-- A rate is read back from its cell as the recorded rate. -/
theorem eq_recordedRate {x y : Binary64}
    (h : Numeral.unsigned? ((x.fixed 2).take cellWidth) = some y) :
  (∃ u hu, x = .finite false u hu) ∧ y = recordedRate x
  := by
  obtain ⟨whole, places, hne, hwhole, hplaces, htrim, hy⟩ := Numeral.written_of_unsigned? h
  rw [trim_of_isFigure fun c hc => isFigure_of_mem_fixed (List.mem_of_mem_take hc)] at htrim
  obtain ⟨u, hu, rfl⟩ := exists_finite_of_take hne hwhole htrim
  constructor
  · use u, hu
  · rw [fixed_two] at htrim
    rw [hy, eq_keptHundredths hne hwhole hplaces htrim, recordedRate]

/-! ### Reading a latency -/

theorem mem_of_unitFactor? {unit : Text} {factor : Binary64}
    (h : Latency.unitFactor? unit = some factor) :
  's' ∈ unit
  := by
  have hunits : ∀ u ∈ ["ns".toList, "us".toList, "ms".toList, "s".toList], 's' ∈ u := by decide
  apply hunits
  by_contra hunit
  simp only [List.mem_cons, List.not_mem_nil, or_false, not_or] at hunit
  obtain ⟨hns, hus, hms, hs⟩ := hunit
  rw [Latency.unitFactor?, if_neg (by simpa using hns), if_neg (by simpa using hus),
    if_neg (by simpa using hms), if_neg (by simpa using hs)] at h
  cases h

/-- What reading a latency takes: a number and a unit, without spaces and in lower case. -/
theorem exists_of_microseconds? {t : Text} {y : Binary64}
    (h : Latency.microseconds? t = some y) :
  ∃ n factor value, n = Numeral.unsignedLength (Text.lower (Text.strip [' ', '\t'] t)) ∧ n ≠ 0
    ∧ Latency.unitFactor? ((Text.lower (Text.strip [' ', '\t'] t)).drop n) = some factor
    ∧ Numeral.unsigned? ((Text.lower (Text.strip [' ', '\t'] t)).take n) = some value
    ∧ y = value.mul factor
  := by
  unfold Latency.microseconds? at h
  dsimp only at h
  split at h
  · cases h
  · rename_i hn
    obtain ⟨factor, hfactor, h⟩ := Option.bind_eq_some_iff.1 h
    obtain ⟨value, hvalue, h⟩ := Option.bind_eq_some_iff.1 h
    refine ⟨_, factor, value, rfl, hn, hfactor, hvalue, ?_⟩
    symm
    apply Option.some.inj h

theorem IsFigure.toLower {c : Char} (h : IsFigure c) :
  c.toLower = c
  := by
  rcases h with hdigit | hmem
  · apply Text.toLower_of_isDigit hdigit
  · fin_cases hmem <;> rfl

theorem lower_strip_eq_self {t : Text} (h : ∀ c ∈ t, IsFigure c ∨ c ∈ ['m', 's']) :
  Text.lower (Text.strip [' ', '\t'] t) = t
  := by
  have hstrip : Text.strip [' ', '\t'] t = t := by
    apply List.filter_eq_self.2
    intro c hc
    have hblank : Text.isBlank c = false := by
      rcases h c hc with hfigure | hunit
      · apply hfigure.isBlank
      · fin_cases hunit <;> rfl
    simp only [Text.isBlank, Bool.or_eq_false_iff, beq_eq_false_iff_ne] at hblank
    simp [hblank]
  have hlower : ∀ c ∈ t, c.toLower = c := by
    intro c hc
    rcases h c hc with hfigure | hunit
    · apply hfigure.toLower
    · fin_cases hunit <;> rfl
  rw [hstrip, Text.lower, List.map_congr_left hlower, List.map_id']

/-- A latency whose unit was cut off is not read at all. -/
theorem length_fixed_le_of_microseconds? {x y : Binary64}
    (h : Latency.microseconds? ((x.fixed 2 ++ ['m', 's']).take cellWidth) = some y) :
  (x.fixed 2).length + 2 ≤ cellWidth
  := by
  by_contra hlong
  have hcut : (x.fixed 2 ++ ['m', 's']).take cellWidth = (x.fixed 2 ++ ['m']).take cellWidth := by
    rw [show x.fixed 2 ++ ['m', 's'] = (x.fixed 2 ++ ['m']) ++ ['s'] by simp]
    apply List.take_append_of_le_length
    rw [List.length_append, List.length_singleton]
    omega
  have hmem : ∀ c ∈ (x.fixed 2 ++ ['m']).take cellWidth, IsFigure c ∨ c = 'm' := by
    intro c hc
    rcases List.mem_append.1 (List.mem_of_mem_take hc) with hc | hc
    · left
      apply isFigure_of_mem_fixed hc
    · right
      apply List.mem_singleton.1 hc
  obtain ⟨n, factor, value, -, -, hfactor, -, -⟩ := exists_of_microseconds? h
  rw [hcut, lower_strip_eq_self] at hfactor
  · have hs := List.mem_of_mem_drop (mem_of_unitFactor? hfactor)
    rcases hmem _ hs with (hdigit | hmark) | hunit
    · cases hdigit
    · simp at hmark
    · simp at hunit
  · intro c hc
    rcases hmem c hc with hfigure | rfl
    · left
      apply hfigure
    · right
      simp

/-- A latency is read back from its cell, in milliseconds, as the nearest number of hundredths
of them. -/
theorem eq_of_microseconds?_cell {x y : Binary64}
    (h : Latency.microseconds? ((x.fixed 2 ++ ['m', 's']).take cellWidth) = some y) :
  (∃ u hu, x = .finite false u hu) ∧ y = (nearestHundredth x).mul (.ofInt 1000)
  := by
  have hlength := length_fixed_le_of_microseconds? h
  rw [List.take_of_length_le (by simpa using hlength)] at h
  obtain ⟨n, factor, value, hn, hne, hfactor, hvalue, rfl⟩ := exists_of_microseconds? h
  have hself : Text.lower (Text.strip [' ', '\t'] (x.fixed 2 ++ ['m', 's'])) =
      x.fixed 2 ++ ['m', 's'] := by
    apply lower_strip_eq_self
    intro c hc
    rcases List.mem_append.1 hc with hc | hc
    · left
      apply isFigure_of_mem_fixed hc
    · right
      apply hc
  rw [hself] at hn hfactor hvalue
  have hfinite : ∃ u hu, x = .finite false u hu := by
    obtain ⟨d, hhead, hd⟩ := Numeral.exists_head?_of_unsignedLength (hn ▸ hne)
    rw [List.head?_append] at hhead
    cases hfixed : (x.fixed 2).head? with
    | none =>
      rw [hfixed] at hhead
      obtain rfl := Option.some.inj hhead
      cases hd
    | some c =>
      rw [hfixed] at hhead
      obtain rfl := Option.some.inj hhead
      apply exists_finite_of_head hd hfixed
  have hn' : n = (x.fixed 2).length := by
    obtain ⟨u, hu, rfl⟩ := hfinite
    rw [hn, fixed_two]
    apply unsignedLength_withPoint_append (by omega)
    intro c hc
    obtain rfl := Option.some.inj hc
    rfl
  rw [hn', List.drop_left] at hfactor
  rw [hn', List.take_left] at hvalue
  obtain rfl := Option.some.inj hfactor
  use hfinite
  rw [(eq_nearestHundredth hvalue).2]

/-! ### Reading a row of medians -/

theorem strip_eq_self {cs t : Text} (h : ∀ c ∈ t, c ∉ cs) :
  Text.strip cs t = t
  := by
  apply List.filter_eq_self.2
  intro c hc
  simpa using h c hc

theorem IsFigure.notMem {c : Char} (h : IsFigure c) :
  c ∉ [' ', ',', '%', '|', '\n']
  := by
  intro hmem
  rcases h with hdigit | hmark
  · fin_cases hmem <;> cases hdigit
  · fin_cases hmark <;> simp at hmem

/-- The processor time of a row has its percent sign only if nothing was cut off. -/
theorem strip_cpu {x : Binary64} (h : '%' ∈ (x.fixed 2 ++ ['%']).take cellWidth) :
  Text.strip [' ', ',', '%'] ((x.fixed 2 ++ ['%']).take cellWidth) = x.fixed 2
  := by
  have hfigure : ∀ c ∈ x.fixed 2, c ∉ [' ', ',', '%'] := by
    intro c hc hmem
    apply (isFigure_of_mem_fixed hc).notMem
    simp only [List.mem_cons, List.not_mem_nil, or_false] at hmem ⊢
    tauto
  have hlength : (x.fixed 2 ++ ['%']).length ≤ cellWidth := by
    by_contra hlong
    rw [List.length_append, List.length_singleton] at hlong
    rw [List.take_append_of_le_length (by omega)] at h
    apply hfigure _ (List.mem_of_mem_take h)
    simp
  rw [List.take_of_length_le hlength, Text.strip, List.filter_append, List.filter_eq_self.2]
  · simp
  · intro c hc
    simpa using hfigure c hc

/-- The metrics that are read back from a row of metrics.  All of these are finite and without
a sign, or the row is not read. -/
theorem eq_recorded_of_metrics? {scenario : ScenarioName} {m r : Metrics Binary64} {rounds : Int}
    (hpercent : '%' ∈ (ofMetrics scenario m rounds).cells.cpu)
    (h : (ofMetrics scenario m rounds).cells.metrics? = some r) :
  r.rps = recordedRate m.rps ∧ r.p99 = recordedLatency m.p99 ∧ r.cpu = nearestHundredth m.cpu
  := by
  obtain ⟨rps, hrps, h⟩ := Option.bind_eq_some_iff.1 h
  obtain ⟨p99, hp99, h⟩ := Option.bind_eq_some_iff.1 h
  obtain ⟨cpu, hcpu, h⟩ := Option.bind_eq_some_iff.1 h
  obtain ⟨rss, hrss, h⟩ := Option.bind_eq_some_iff.1 h
  obtain rfl := Option.some.inj h
  constructor
  · have hstrip : Text.strip [' ', ','] ((m.rps.fixed 2).take cellWidth) =
        (m.rps.fixed 2).take cellWidth := by
      apply strip_eq_self
      intro c hc hmem
      apply (isFigure_of_mem_fixed (List.mem_of_mem_take hc)).notMem
      simp only [List.mem_cons, List.not_mem_nil, or_false] at hmem ⊢
      tauto
    have hcell : (ofMetrics scenario m rounds).cells.rps = (m.rps.fixed 2).take cellWidth := rfl
    rw [hcell, hstrip] at hrps
    apply (eq_recordedRate hrps).2
  · constructor
    · apply (eq_of_microseconds?_cell hp99).2
    · have hcell : (ofMetrics scenario m rounds).cells.cpu =
          (m.cpu.fixed 2 ++ ['%']).take cellWidth := rfl
      rw [hcell] at hpercent hcpu
      rw [strip_cpu hpercent] at hcpu
      apply (eq_nearestHundredth hcpu).2

end SheetRow

end PerfGate
