import PerfGate.Proofs.Baseline.Fresh
import PerfGate.Proofs.Stats
import PerfGate.Proofs.Stats.Order
import PerfGate.Proofs.Verdict

/-!
# What a snapshot is read back as

A snapshot of complete rounds is read back as the medians of its scenarios, rounded to the places
that its cells have (`BaselineSheet.snapshot_recalled`).  Of the numbers of the program the negative
zero is written with a minus, which no cell may have; a median that is one makes a snapshot that
is refused.  The medians of numbers not below zero are never negative otherwise, and they stay so
small that nothing is cut off.
-/

namespace PerfGate

open Binary64

section

variable {α : Type} [Figure α]

/-! ### Rounds -/

/-- The four numbers of metrics. -/
def Metrics.toList (m : Metrics α) : List α := [m.rps, m.p99, m.cpu, m.rss]

/-- Whether a number can have been measured: it is finite, not below zero and below a limit. -/
def IsMeasure (x : α) : Prop := ∃ v, Figure.value? x = some v ∧ 0 ≤ v ∧ v < 10 ^ 50

/-- Whether there are rounds, all of them complete, with numbers that can have been measured. -/
structure AreMeasured (scenarios : List ScenarioName) (rounds : List (Round α)) : Prop where
  /-- There is a round. -/
  ne_nil : rounds ≠ []
  /-- Each round has metrics of each scenario. -/
  covers : ∀ round ∈ rounds, Covers round scenarios
  /-- Their numbers can have been measured. -/
  isMeasure :
    ∀ round ∈ rounds, ∀ s ∈ scenarios, ∀ m, Table.get? s round = some m → ∀ x ∈ m.toList,
      IsMeasure x

/-- The names of scenarios that a sheet can hold, each of them once. -/
structure AreNames (scenarios : List ScenarioName) : Prop where
  /-- No name is there twice. -/
  nodup : scenarios.Nodup
  /-- Each of them is a name. -/
  isName : ∀ s ∈ scenarios, SheetCells.IsName s
  /-- None of them holds a line feed. -/
  feed_notMem : ∀ s ∈ scenarios, '\n' ∉ s

variable {scenarios : List ScenarioName} {rounds : List (Round α)}

/-- Each metric of a scenario has values, and all of them can have been measured. -/
theorem AreMeasured.valuesOf (h : AreMeasured scenarios rounds) {s : ScenarioName}
    (hs : s ∈ scenarios) {metric : Metrics α → α} (hmetric : ∀ m, metric m ∈ m.toList) :
  History.valuesOf s metric rounds ≠ []
    ∧ ∀ x ∈ History.valuesOf s metric rounds, IsMeasure x
  := by
  constructor
  · obtain ⟨round, hround⟩ := List.exists_mem_of_ne_nil rounds h.ne_nil
    obtain ⟨m, hm⟩ := (h.covers round hround).get? hs
    apply List.ne_nil_of_mem
    apply List.mem_filterMap.2
    use round, hround
    rw [hm]
    rfl
  · intro x hx
    obtain ⟨round, hround, hx⟩ := List.mem_filterMap.1 hx
    obtain ⟨m, hm, rfl⟩ := Option.map_eq_some_iff.1 hx
    apply h.isMeasure round hround s hs m hm _ (hmetric m)

/-! ### Reading back -/

namespace Baseline

omit [Figure α] in
/-- Rows of which each is for its own scenario are read as one entry each. -/
theorem exists_gather_map {figures? : SheetCells → Option (BaselineFigures α)}
    {row : ScenarioName → SheetCells} (hrow : ∀ s, (row s).scenario = s)
    (hentry : ∀ s ∈ scenarios, (figures? (row s)).isSome = true) :
  ∃ b, gather figures? (scenarios.map row) scenarios = .ok b
    ∧ (∀ s, Table.has s b = true ↔ s ∈ scenarios)
    ∧ ∀ s ∈ scenarios, Table.get? s b = figures? (row s)
  := by
  have hmalformed : malformed? figures? (scenarios.map row) scenarios = none := by
    apply List.find?_eq_none.2
    intro cells hcells
    obtain ⟨s, hs, rfl⟩ := List.mem_map.1 hcells
    simpa [Option.isSome_iff_ne_none] using fun _ => hentry s hs
  have hlast : ∀ s ∈ scenarios, lastRow? (scenarios.map row) s = some (row s) := by
    intro s hs
    cases hcells : lastRow? (scenarios.map row) s with
    | none =>
      have hmem : row s ∈ (scenarios.map row).filter fun cells => cells.scenario == s := by
        apply List.mem_filter.2
        use List.mem_map_of_mem hs
        rw [hrow, beq_self_eq_true]
      rw [lastRow?, List.getLast?_eq_none_iff] at hcells
      rw [hcells] at hmem
      cases hmem
    | some cells =>
      obtain ⟨hmem, hname⟩ := mem_of_lastRow? hcells
      obtain ⟨s', -, rfl⟩ := List.mem_map.1 hmem
      rw [hrow] at hname
      rw [hname]
  have hrowless : rowless? (scenarios.map row) scenarios = none := by
    apply List.find?_eq_none.2
    intro s hs
    simp [hlast s hs]
  obtain ⟨b, hb, hkeys, hentries⟩ :=
    (tells_gather (scenarios.map row) scenarios).exists_ok hmalformed hrowless
  use b, hb, hkeys
  intro s hs
  obtain ⟨cells, hcells, hget⟩ := hentries s hs
  rw [hlast s hs, Option.some_inj] at hcells
  rw [hget, hcells]

end Baseline

/-- Whether a baseline has exactly some scenarios, each with what the cells of its medians over some
rounds are read as. -/
structure Recalls (scenarios : List ScenarioName) (rounds : List (Round α)) (b : Baseline α) :
    Prop where
  /-- The scenarios are the keys. -/
  has_iff : ∀ s, Table.has s b = true ↔ s ∈ scenarios
  /-- The entry of each of them is made from its medians. -/
  exists_entry :
    ∀ s ∈ scenarios, ∃ r, (mediansOver s rounds).toMetrics.ReadsAs r
      ∧ Table.get? s b = some (.ofMetrics r)

namespace BaselineSheet

/-- The row of a scenario, with its medians over rounds. -/
def rowOver (rounds : List (Round α)) (count : Int) (s : ScenarioName) : SheetCells :=
  (SheetRow.write s (mediansOver s rounds).toMetrics count).cells

variable {h : History α} {entries : List (Int × Round α)} {outcomes : ScenarioName → List Bool}

theorem rowsOf_eq (hh : h.Holds scenarios entries outcomes) :
  rowsOf h = scenarios.map (rowOver (entries.map (·.2)) h.rounds)
  := by
  rw [rowsOf, hh.scenarios_eq]
  apply List.map_congr_left
  intro s hs
  simp only [History.medians, rowOver, mediansOver, hh.series_eq hs]

variable [LawfulFigure α] {c : Config} {run : RunMeta}

/-- A snapshot is read back if all cells are written without a minus and with few digits. -/
theorem exists_recalls (hh : h.Holds scenarios entries outcomes) (hnames : AreNames scenarios)
    (hshown : ∀ t ∈ shownTexts c run, '\n' ∉ t)
    (hplain : ∀ s ∈ scenarios, (mediansOver s (entries.map (·.2))).toMetrics.IsPlain) :
  ∃ b, Baseline.read (write h c run).toText scenarios = .ok b
    ∧ Recalls scenarios (entries.map (·.2)) b
  := by
  have hrows := rowsOf_eq hh
  have hcandidates : candidates (write h c run).toText = rowsOf h := by
    apply candidates_write hshown
    rw [hrows]
    intro cells hcells
    obtain ⟨s, hs, rfl⟩ := List.mem_map.1 hcells
    apply SheetRow.legible_write (hplain s hs) (hnames.isName s hs) (hnames.feed_notMem s hs)
  have hentry : ∀ s ∈ scenarios, ∃ r, (mediansOver s (entries.map (·.2))).toMetrics.ReadsAs r
      ∧ (rowOver (entries.map (·.2)) h.rounds s).readFigures? =
        some (BaselineFigures.ofMetrics r) := by
    intro s hs
    obtain ⟨r, hr, hreads⟩ := SheetRow.exists_read?_write (hplain s hs) s h.rounds
    use r, hreads
    rw [SheetCells.readFigures?, rowOver, hr]
    rfl
  have hsome : ∀ s ∈ scenarios, ((rowOver (entries.map (·.2)) h.rounds s).readFigures? :
      Option (BaselineFigures α)).isSome = true := by
    intro s hs
    obtain ⟨r, -, hr⟩ := hentry s hs
    rw [hr]
    rfl
  obtain ⟨b, hb, hkeys, hentries⟩ := Baseline.exists_gather_map (fun _ => rfl) hsome
  use b
  constructor
  · rw [Baseline.read, hcandidates, hrows, hb]
  · constructor
    · apply hkeys
    · intro s hs
      obtain ⟨r, hreads, hr⟩ := hentry s hs
      use r, hreads
      rw [hentries s hs, hr]

end BaselineSheet

end

/-! ### Numbers of the program -/

namespace Binary64

/-- The exponent of a power of two above all that can have been measured. -/
def rowExponent : Nat := 167

/-- A limit of the numbers in a row, in units. -/
def rowLimit : Nat := Nat.pow 2 (rowExponent + 1074)

theorem rowLimit_eq : 2 ^ rowExponent * unitsPerOne = rowLimit := by
  unfold rowLimit
  generalize rowExponent = n
  apply two_pow_mul_unitsPerOne

theorem hasPrecision_rowLimit : HasPrecision rowLimit := by
  unfold rowLimit
  apply hasPrecision_two_pow

theorem two_mul_rowLimit_lt : 2 * rowLimit < unitLimit := by decide +kernel

theorem atMost_of_isMeasure {x : Binary64} (h : IsMeasure x) :
  AtMost rowLimit x
  := by
  obtain ⟨v, hv, hnonneg, hlimit⟩ := h
  have hone : (0 : ℚ) < unitsPerOne := by exact_mod_cast unitsPerOne_pos
  cases x with
  | finite s u hu =>
    obtain rfl := Option.some.inj hv
    use s, u, hu, rfl
    cases s with
    | false =>
      constructor
      · have hless : (u : ℚ) < 10 ^ 50 * unitsPerOne := (div_lt_iff₀ hone).1 hlimit
        have hpower : 10 ^ 50 * unitsPerOne ≤ rowLimit := by
          rw [← rowLimit_eq]
          apply Nat.mul_le_mul_right
          decide
        have hless' : u < 10 ^ 50 * unitsPerOne := by exact_mod_cast hless
        omega
      · rintro ⟨⟩
    | true =>
      have hzero : u = 0 := by
        have hsign := (le_div_iff₀ hone).1 hnonneg
        have hnone : (u : ℚ) ≤ 0 := by
          rw [zero_mul, if_pos rfl] at hsign
          simpa only [Int.cast_neg, Int.cast_natCast, neg_nonneg] using hsign
        exact Nat.le_zero.1 (by exact_mod_cast hnone)
      use hzero ▸ Nat.zero_le _
      intro
      apply hzero
  | infinite s => cases hv
  | nan s => cases hv

theorem isPlain_of_within {x : Binary64} (h : Within rowLimit x) :
  IsPlain x
  := by
  obtain ⟨u, hu, rfl, hle⟩ := h
  have hone : (0 : ℚ) < unitsPerOne := by exact_mod_cast unitsPerOne_pos
  constructor
  · rfl
  · use u / unitsPerOne, rfl
    rw [div_lt_iff₀ hone]
    have hless : u < 10 ^ 51 * unitsPerOne := by
      calc u
        _ ≤ rowLimit := hle
        _ = 2 ^ rowExponent * unitsPerOne := rowLimit_eq.symm
        _ < 10 ^ 51 * unitsPerOne := by
          apply Nat.mul_lt_mul_of_pos_right _ unitsPerOne_pos
          decide
    exact_mod_cast hless

theorem fits_thousand : FitsBinary64 (1000 * unitsPerOne) := by
  constructor
  · decide +kernel
  · unfold unitsPerOne
    apply hasPrecision_mul_two_pow
    decide

theorem ofInt_thousand :
  Binary64.ofInt 1000 = .finite false (1000 * unitsPerOne) fits_thousand
  := by decide +kernel

/-- In milliseconds a latency is within the same bound. -/
theorem Within.div_thousand {bound : Nat} {x : Binary64} (hbound : HasPrecision bound)
    (hlimit : bound < unitLimit) (h : Within bound x) :
  Within bound (x.div (Binary64.ofInt 1000))
  := by
  obtain ⟨u, hu, rfl, hle⟩ := h
  have hone := unitsPerOne_pos
  rw [ofInt_thousand]
  simp only [Binary64.div]
  rw [if_neg (by omega)]
  apply within_ofRatio hbound hlimit (by omega)
  calc u * unitsPerOne
    _ ≤ bound * unitsPerOne := Nat.mul_le_mul_right _ hle
    _ ≤ bound * (1000 * unitsPerOne) := Nat.mul_le_mul_left _ (by omega)

variable {scenarios : List ScenarioName} {rounds : List (Round Binary64)} {s : ScenarioName}

/-- Medians are written without a minus and with few digits, unless one is the negative zero. -/
theorem isPlain_medians (h : AreMeasured scenarios rounds) (hs : s ∈ scenarios)
    (hne : ∀ x ∈ (mediansOver s rounds).toMetrics.toList, x ≠ .zero true) :
  (mediansOver s rounds).toMetrics.IsPlain
  := by
  have hmedian : ∀ metric : Metrics Binary64 → Binary64, (∀ m, metric m ∈ m.toList) →
      Stats.median (History.valuesOf s metric rounds) ≠ .zero true →
      Within rowLimit (Stats.median (History.valuesOf s metric rounds)) := by
    intro metric hmetric hzero
    obtain ⟨hsome, hvalues⟩ := h.valuesOf hs hmetric
    apply AtMost.within _ hzero
    apply Stats.atMost_median hsome hasPrecision_rowLimit two_mul_rowLimit_lt
    intro x hx
    apply atMost_of_isMeasure (hvalues x hx)
  simp only [Metrics.toList, List.forall_mem_cons, List.not_mem_nil, false_implies, implies_true,
    and_true] at hne
  obtain ⟨hrps, hp99, hcpu, hrss⟩ := hne
  have hlimit := two_mul_rowLimit_lt
  constructor
  · apply isPlain_of_within (hmedian _ (by simp [Metrics.toList]) hrps)
  · apply isPlain_of_within
    apply Within.div_thousand hasPrecision_rowLimit (by omega)
    apply hmedian _ (by simp [Metrics.toList]) hp99
  · apply isPlain_of_within (hmedian _ (by simp [Metrics.toList]) hcpu)
  · apply isPlain_of_within (hmedian _ (by simp [Metrics.toList]) hrss)

end Binary64

/-! ### Exact numbers -/

namespace Exact

theorem isMeasure_iff {v : ℚ} :
  IsMeasure v ↔ 0 ≤ v ∧ v < 10 ^ 50
  := by
  constructor
  · rintro ⟨w, hw, hmeasure⟩
    obtain rfl := Option.some.inj hw
    apply hmeasure
  · intro hmeasure
    use v, rfl

theorem div_thousand (v : ℚ) :
  v / (Scalar.ofInt 1000 : ℚ) = v / 1000
  := rfl

theorem isPlain {v : ℚ} (hnonneg : 0 ≤ v) (hle : v ≤ 10 ^ 50) :
  IsPlain v
  := by
  constructor
  · apply decide_eq_false
    apply not_lt.2 hnonneg
  · use v, rfl
    linarith

variable {scenarios : List ScenarioName} {rounds : List (Round ℚ)} {s : ScenarioName}

/-- Exact medians are written without a minus and with few digits. -/
theorem isPlain_medians (h : AreMeasured scenarios rounds) (hs : s ∈ scenarios) :
  (mediansOver s rounds).toMetrics.IsPlain
  := by
  have hmedian : ∀ metric : Metrics ℚ → ℚ, (∀ m, metric m ∈ m.toList) →
      0 ≤ Stats.median (History.valuesOf s metric rounds)
        ∧ Stats.median (History.valuesOf s metric rounds) ≤ 10 ^ 50 := by
    intro metric hmetric
    obtain ⟨hsome, hvalues⟩ := h.valuesOf hs hmetric
    constructor
    · apply Stats.median_nonneg
      intro v hv
      apply (isMeasure_iff.1 (hvalues v hv)).1
    · apply Stats.median_le hsome
      intro v hv
      apply (isMeasure_iff.1 (hvalues v hv)).2.le
  have hrps := hmedian (·.rps) (by simp [Metrics.toList])
  have hp99 := hmedian (·.p99) (by simp [Metrics.toList])
  have hcpu := hmedian (·.cpu) (by simp [Metrics.toList])
  have hrss := hmedian (·.rss) (by simp [Metrics.toList])
  constructor
  · apply isPlain hrps.1 hrps.2
  · rw [div_thousand]
    obtain ⟨hnonneg, hle⟩ := hp99
    apply isPlain
    · apply div_nonneg hnonneg
      norm_num
    · rw [div_le_iff₀ (by norm_num)]
      apply hle.trans
      norm_num
  · apply isPlain hcpu.1 hcpu.2
  · apply isPlain hrss.1 hrss.2

/-- A number is read as one that is half a step away at most. -/
theorem abs_sub_le {places : Nat} {x y : ℚ} (h : IsRounded places x y) :
  |y - x| ≤ 1 / 2 / 10 ^ places
  := by
  obtain ⟨v, k, hv, hnearest, rfl⟩ := h
  obtain rfl := Option.some.inj hv
  have hstep : (0 : ℚ) < 10 ^ places := by positivity
  have hdistance : (Figure.ofFraction k (10 ^ places) : ℚ) - x =
      -(x * 10 ^ places - k) / 10 ^ places := by
    have hfraction : (Figure.ofFraction k (10 ^ places) : ℚ) = k / (10 ^ places : Nat) := rfl
    rw [hfraction]
    push_cast
    field_simp
    ring
  rw [hdistance, abs_div, abs_neg, abs_of_pos hstep, div_le_div_iff_of_pos_right hstep]
  apply hnearest.near

end Exact

/-- Whether exact metrics are as near to other ones as the cells of a row allow. -/
structure Metrics.IsNear (m r : Metrics ℚ) : Prop where
  /-- The rate, to half a hundredth. -/
  rps : |r.rps - m.rps| ≤ 5 / 1000
  /-- The latency, to five microseconds. -/
  p99 : |r.p99 - m.p99| ≤ 5
  /-- The processor time, to half a hundredth. -/
  cpu : |r.cpu - m.cpu| ≤ 5 / 1000
  /-- The memory, to half a kilobyte. -/
  rss : |r.rss - m.rss| ≤ 5 / 10

theorem Metrics.ReadsAs.isNear {m r : Metrics ℚ} (h : m.ReadsAs r) :
  m.IsNear r
  := by
  constructor
  · have hrps := Exact.abs_sub_le h.rps
    norm_num at hrps ⊢
    apply hrps
  · obtain ⟨ms, hms, heq⟩ := h.p99
    have hp99 := Exact.abs_sub_le hms
    have hscale : ms * (Scalar.ofInt 1000 : ℚ) = ms * 1000 := rfl
    rw [Exact.div_thousand, abs_le] at hp99
    rw [heq, hscale, abs_le]
    constructor <;> linarith
  · have hcpu := Exact.abs_sub_le h.cpu
    norm_num at hcpu ⊢
    apply hcpu
  · have hrss := Exact.abs_sub_le h.rss
    norm_num at hrss ⊢
    apply hrss

/-! ### Snapshots -/

namespace BaselineSheet

/-- A snapshot of complete rounds reads back to what was measured, unless one of its medians is the
negative zero, whose minus no cell may have.  With the numbers of the program each entry is made
from the numbers nearest to the rounded medians; with exact numbers it is that of the rounded
medians, and so it is as near to them as the cells allow. -/
theorem snapshot_recalled {scenarios : List ScenarioName} (hnames : AreNames scenarios)
    {c : Config} {run : RunMeta} (hshown : ∀ t ∈ shownTexts c run, '\n' ∉ t) :
  (∀ (h : History Binary64) (entries : List (Int × Round Binary64))
      (outcomes : ScenarioName → List Bool),
    h.Holds scenarios entries outcomes → AreMeasured scenarios (entries.map (·.2)) →
    (∀ s ∈ scenarios, ∀ x ∈ (mediansOver s (entries.map (·.2))).toMetrics.toList,
      x ≠ .zero true) →
    ∃ b, Baseline.ofText (snapshot h c run).toText scenarios = .ok b
      ∧ Recalls scenarios (entries.map (·.2)) b)
    ∧ ∀ (h : History ℚ) (entries : List (Int × Round ℚ)) (outcomes : ScenarioName → List Bool),
      h.Holds scenarios entries outcomes → AreMeasured scenarios (entries.map (·.2)) →
      ∃ b, Baseline.read (write h c run).toText scenarios = .ok b
        ∧ Recalls scenarios (entries.map (·.2)) b
        ∧ ∀ s ∈ scenarios, ∃ e, Table.get? s b = some e
          ∧ (mediansOver s (entries.map (·.2))).toMetrics.IsNear e.toMetrics
  := by
  constructor
  · intro h entries outcomes hh hmeasured hne
    have hrecalls := exists_recalls hh hnames hshown fun s hs =>
      Binary64.isPlain_medians hmeasured hs (hne s hs)
    rw [write_eq, Baseline.read_eq] at hrecalls
    apply hrecalls
  · intro h entries outcomes hh hmeasured
    obtain ⟨b, hb, hrecalls⟩ := exists_recalls hh hnames hshown fun s hs =>
      Exact.isPlain_medians hmeasured hs
    use b, hb, hrecalls
    intro s hs
    obtain ⟨r, hreads, hget⟩ := hrecalls.exists_entry s hs
    refine ⟨.ofMetrics r, hget, ?_⟩
    apply hreads.isNear

/-- Where the sheet of one round came from. -/
def soloRun : RunMeta where
  date := "2026-01-02 03:04:05 UTC".toList
  fileStamp := "20260102_030405".toList
  hostname := "bench".toList
  revision := "abc123".toList

/-- A round with metrics of one scenario. -/
def soloRound {α : Type} (m : Metrics α) : Round α := [("solo".toList, m)]

/-- Metrics with whole numbers and a given processor time. -/
def soloMetrics (cpu : Binary64) : Metrics Binary64 where
  rps := .ofInt 1000
  p99 := .ofInt 1004
  cpu
  rss := .ofInt 5000

/-- Exact metrics, with a latency between two whole numbers. -/
def exactMetrics : Metrics ℚ where
  rps := 1000
  p99 := 2009 / 2
  cpu := 45
  rss := 5000

theorem exists_holds_solo {α : Type} (m : Metrics α) :
  ∃ h : History α, (History.start ["solo".toList]).record 1 (soloRound m) = .ok h
    ∧ h.Holds ["solo".toList] [(1, soloRound m)] fun _ => []
  := by
  have hcovers : Covers (soloRound m) ["solo".toList] := by
    intro s hs
    obtain rfl := List.mem_singleton.1 hs
    rfl
  apply (History.holds_start _).record (List.nodup_singleton _) 1 hcovers

theorem areNames_solo : AreNames ["solo".toList] := by
  constructor
  · decide
  · intro s hs
    obtain rfl := List.mem_singleton.1 hs
    constructor <;> decide
  · decide

theorem areMeasured_solo {α : Type} [Figure α] {m : Metrics α} (h : ∀ x ∈ m.toList, IsMeasure x) :
  AreMeasured ["solo".toList] [soloRound m]
  := by
  constructor
  · apply List.cons_ne_nil
  · intro round hround s hs
    obtain rfl := List.mem_singleton.1 hround
    obtain rfl := List.mem_singleton.1 hs
    rfl
  · intro round hround s hs m' hm'
    obtain rfl := List.mem_singleton.1 hround
    obtain rfl := List.mem_singleton.1 hs
    obtain rfl := Option.some.inj hm'
    apply h

theorem isMeasure_ofInt {n : Nat} (hn : n ≤ 2 ^ 53) :
  IsMeasure (Binary64.ofInt n)
  := by
  use n, value?_ofInt hn, Nat.cast_nonneg n
  have hless : n < 10 ^ 50 := Nat.lt_of_le_of_lt hn (by decide)
  exact_mod_cast hless

/-- A round of the program reads back, and so does an exact one: its latency of 1004.5 microseconds
as one that is five of them away at most. -/
theorem snapshot_recalled_solo :
  (∃ (h : History Binary64) (b : Baseline Binary64),
      (History.start ["solo".toList]).record 1 (soloRound (soloMetrics (.ofInt 45))) = .ok h
      ∧ Baseline.ofText (snapshot h {} soloRun).toText ["solo".toList] = .ok b
      ∧ Recalls ["solo".toList] [soloRound (soloMetrics (.ofInt 45))] b)
    ∧ ∃ (h : History ℚ) (b : Baseline ℚ) (e : BaselineFigures ℚ),
      (History.start ["solo".toList]).record 1 (soloRound exactMetrics) = .ok h
      ∧ Baseline.read (write h {} soloRun).toText ["solo".toList] = .ok b
      ∧ Table.get? "solo".toList b = some e ∧ |e.p99 - 2009 / 2| ≤ 5
  := by
  have hshown : ∀ t ∈ shownTexts {} soloRun, '\n' ∉ t := by decide
  constructor
  · obtain ⟨h, hrecord, hh⟩ := exists_holds_solo (soloMetrics (.ofInt 45))
    have hmeasure : ∀ x ∈ (soloMetrics (.ofInt 45)).toList, IsMeasure x := by
      simp only [Metrics.toList, soloMetrics, List.forall_mem_cons, List.not_mem_nil,
        false_implies, implies_true, and_true]
      refine ⟨isMeasure_ofInt ?_, isMeasure_ofInt ?_, isMeasure_ofInt ?_, isMeasure_ofInt ?_⟩
      all_goals decide
    obtain ⟨b, hb, hrecalls⟩ := (snapshot_recalled areNames_solo hshown).1 h _ _ hh
      (areMeasured_solo hmeasure) (by decide +kernel)
    exact ⟨h, b, hrecord, hb, hrecalls⟩
  · obtain ⟨h, hrecord, hh⟩ := exists_holds_solo exactMetrics
    have hmeasure : ∀ x ∈ exactMetrics.toList, IsMeasure x := by
      simp only [Exact.isMeasure_iff]
      decide +kernel
    obtain ⟨b, hb, -, hnear⟩ := (snapshot_recalled areNames_solo hshown).2 h _ _ hh
      (areMeasured_solo hmeasure)
    obtain ⟨e, hget, hnear⟩ := hnear "solo".toList (List.mem_singleton_self _)
    exact ⟨h, b, e, hrecord, hb, hget, hnear.p99⟩

/-- A round whose processor time is the negative zero, a number not below zero, makes a snapshot
that is refused. -/
theorem snapshot_refused_of_negative_zero :
  AreNames ["solo".toList] ∧ (∀ t ∈ shownTexts {} soloRun, '\n' ∉ t)
    ∧ AreMeasured ["solo".toList] [soloRound (soloMetrics (.zero true))]
    ∧ ∃ h : History Binary64,
      h.Holds ["solo".toList] [(1, soloRound (soloMetrics (.zero true)))] (fun _ => [])
      ∧ Baseline.ofText (snapshot h {} soloRun).toText ["solo".toList] =
        .error (.rowMalformed "solo".toList "1000.00".toList "1.00ms".toList "-0.00%".toList
          "5000KB".toList)
  := by
  have hmeasure : ∀ x ∈ (soloMetrics (.zero true)).toList, IsMeasure x := by
    have hzero : IsMeasure (zero true) := by
      use 0
      decide +kernel
    simp only [Metrics.toList, soloMetrics, List.forall_mem_cons, List.not_mem_nil,
      false_implies, implies_true, and_true]
    exact ⟨isMeasure_ofInt (by decide), isMeasure_ofInt (by decide), hzero,
      isMeasure_ofInt (by decide)⟩
  have hrefused :
      ((History.start ["solo".toList]).record 1 (soloRound (soloMetrics (.zero true)))).toOption.map
        (fun h => Baseline.ofText (snapshot h {} soloRun).toText ["solo".toList]) =
      some (.error (.rowMalformed "solo".toList "1000.00".toList "1.00ms".toList "-0.00%".toList
        "5000KB".toList)) := by
    decide +kernel
  obtain ⟨h, hrecord, hh⟩ := exists_holds_solo (soloMetrics (.zero true))
  rw [hrecord] at hrefused
  use areNames_solo, by decide, areMeasured_solo hmeasure, h, hh
  apply Option.some.inj hrefused

end BaselineSheet

end PerfGate
