import PerfGate.Proofs.Baseline.Selection
import PerfGate.Proofs.Fallible
import PerfGate.Proofs.Numeral

/-!
# Cells in their units

The memory of a row is in kilobytes and its processor time in percent.  A cell is in a unit if,
without its spaces and commas, it is an unsigned decimal with the unit behind it (`Measures`).  A
row that is entered has its memory in kilobytes.  Its processor time need not be in percent, for
percent signs are taken out wherever they stand: it is if and only if there is a single one, at the
end (`measures_percent_iff`).
-/

namespace PerfGate

namespace Numeral

open Binary64

/-- Whether a text is an unsigned decimal with any blanks around it, and a number is the one
nearest to that decimal. -/
def Denotes (t : Text) (x : Binary64) : Prop :=
  ∃ front whole places back : Text,
    (∀ c ∈ front, Text.isBlank c = true) ∧ (∀ c ∈ back, Text.isBlank c = true)
      ∧ whole ≠ [] ∧ whole.IsDigits ∧ places.IsDigits ∧ t = front ++ written whole places ++ back
      ∧ x = ofFraction (Decimal.value (whole ++ places)) (10 ^ places.length)

/-- A metric value is what its text denotes. -/
theorem denotes_of_unsigned? {t : Text} {x : Binary64} (h : unsigned? t = some x) :
  Denotes t x
  := by
  obtain ⟨whole, places, hne, hwhole, hplaces, htrim, hx⟩ := written_of_unsigned? h
  obtain ⟨front, back, hfront, hback, ht⟩ := Text.exists_eq_append_trim t
  rw [htrim] at ht
  use front, whole, places, back

/-- What denotes a number holds nothing but digits, points and blanks. -/
theorem Denotes.of_mem {t : Text} {x : Binary64} (h : Denotes t x) {c : Char} (hc : c ∈ t) :
  Text.isDigit c = true ∨ c = '.' ∨ Text.isBlank c = true
  := by
  obtain ⟨front, whole, places, back, hfront, hback, -, hwhole, hplaces, rfl, -⟩ := h
  rw [List.append_assoc, List.mem_append, List.mem_append] at hc
  rcases hc with hc | hc | hc
  · right
    right
    apply hfront c hc
  · rcases mem_written hwhole hplaces hc with hdigit | hpoint
    · left
      apply hdigit
    · right
      left
      apply hpoint
  · right
    right
    apply hback c hc

end Numeral

/-- A text either has `back` at its end, behind what is left without it, or is left as it is. -/
theorem eq_withoutEnd_append_or (back t : Text) :
  t = withoutEnd back t ++ back ∨ withoutEnd back t = t
  := by
  unfold withoutEnd
  split
  · rename_i hend
    left
    obtain ⟨front, rfl⟩ := Text.endsWith_iff.1 hend
    rw [List.length_append, Nat.add_sub_cancel, List.take_left]
  · right
    rfl

namespace SheetCells

open Numeral

/-! ### One cell -/

/-- Whether a cell, without its spaces and commas, is an unsigned decimal with a unit behind it,
and a number is the one nearest to that decimal. -/
def Measures (unit cell : Text) (x : Binary64) : Prop :=
  ∃ t, Denotes t x ∧ Text.strip [' ', ','] cell = t ++ unit

/-- A memory cell that is read has its `KB` at the end, if it has one. -/
theorem measures_kilobytes {cell : Text} {x : Binary64} (hunit : ['K', 'B'] <:+: cell)
    (h : unsigned? (withoutEnd ['K', 'B'] (Text.strip [' ', ','] cell)) = some x) :
  Measures ['K', 'B'] cell x
  := by
  have hdenotes := denotes_of_unsigned? h
  rcases eq_withoutEnd_append_or ['K', 'B'] (Text.strip [' ', ','] cell) with hend | hsame
  · use withoutEnd ['K', 'B'] (Text.strip [' ', ','] cell), hdenotes
  · -- the unit would be left over inside of the decimal
    have hkilo : 'K' ∈ Text.strip [' ', ','] cell := by
      apply List.mem_filter.2
      use hunit.subset List.mem_cons_self
      decide
    rw [hsame] at hdenotes
    cases mt hdenotes.of_mem (by decide) hkilo

theorem strip_percent (cell : Text) :
  Text.strip [' ', ',', '%'] cell = Text.strip ['%'] (Text.strip [' ', ','] cell)
  := by
  simp only [Text.strip, List.filter_filter]
  apply List.filter_congr
  intro c _
  simp [Bool.and_comm, Bool.and_left_comm]

theorem count_percent_strip (cell : Text) :
  (Text.strip [' ', ','] cell).count '%' = cell.count '%'
  := by
  apply List.count_filter
  decide

/-- A processor cell that is read is in percent if and only if it has a single percent sign, at its
end. -/
theorem measures_percent_iff {cell : Text} {x : Binary64}
    (h : Denotes (Text.strip [' ', ',', '%'] cell) x) :
  Measures ['%'] cell x ↔
    cell.count '%' = 1 ∧ (Text.strip [' ', ','] cell).getLast? = some '%'
  := by
  rw [← count_percent_strip]
  constructor
  · rintro ⟨t, ht, hcell⟩
    have hnone : '%' ∉ t := mt ht.of_mem (by decide)
    rw [hcell]
    constructor
    · rw [List.count_append, List.count_eq_zero_of_not_mem hnone]
      rfl
    · apply List.getLast?_concat
  · rintro ⟨hcount, hlast⟩
    obtain ⟨t, hcell⟩ := List.getLast?_eq_some_iff.1 hlast
    have hnone : '%' ∉ t := by
      rw [hcell, List.count_append, List.count_singleton_self] at hcount
      apply List.count_eq_zero.1
      omega
    have hself : Text.strip ['%'] (t ++ ['%']) = t := by
      rw [Text.strip, List.filter_append, List.filter_eq_self.2]
      · simp
      · intro c hc
        simpa using ne_of_mem_of_not_mem hc hnone
    rw [strip_percent, hcell, hself] at h
    use t, h, hcell

/-! ### The cells of a row -/

/-- Whether the memory and the processor time of cells amount to those of an entry. -/
structure AmountsTo (c : SheetCells) (e : BaselineFigures Binary64) : Prop where
  /-- The memory is in kilobytes. -/
  memory : Measures ['K', 'B'] c.rss e.rss
  /-- The processor time has a percent sign somewhere. -/
  percent : '%' ∈ c.cpu
  /-- Without its percent signs it is a decimal. -/
  time : Denotes (Text.strip [' ', ',', '%'] c.cpu) e.cpu

/-- The cells of a row with an entry amount to it. -/
theorem amountsTo_of_entry? {l : Text} {c : SheetCells} (hrow : ofLine? l = some c)
    {e : BaselineFigures Binary64} (h : c.entry? = some e) :
  c.AmountsTo e
  := by
  obtain ⟨hpercent, hkilobytes⟩ := units_of_ofLine? hrow
  obtain ⟨m, hm, rfl⟩ := Option.map_eq_some_iff.1 h
  simp only [metrics?, Option.bind_eq_bind, Option.bind_eq_some_iff, Option.some.injEq] at hm
  obtain ⟨rps, -, p99, -, cpu, hcpu, rss, hrss, rfl⟩ := hm
  constructor
  · apply measures_kilobytes hkilobytes hrss
  · apply hpercent
  · apply denotes_of_unsigned? hcpu

end SheetCells

namespace Baseline

open SheetCells BaselineSheet

/-- A baseline that is read has entries from rows alone whose memory is in kilobytes and whose
processor time, percent signs apart, is a decimal; that is in percent if and only if its percent
sign is a single one, at the end.  The entry of a scenario is that of its last row. -/
theorem amountsTo_of_ofText {t : Text} {wanted : List ScenarioName} {b : Baseline Binary64}
    (h : ofText t wanted = .ok b) :
  (∀ c ∈ candidates t, c.scenario ∈ wanted → ∃ e, c.entry? = some e ∧ c.AmountsTo e
      ∧ (Measures ['%'] c.cpu e.cpu ↔
        c.cpu.count '%' = 1 ∧ (Text.strip [' ', ','] c.cpu).getLast? = some '%'))
    ∧ ∀ s e, Table.get? s b = some e →
      s ∈ wanted ∧ ∃ c, lastRow? (candidates t) s = some c ∧ c.entry? = some e
  := by
  have htells : Tells SheetCells.entry? (candidates t) wanted (ofText t wanted) := by
    rw [ofText_eq_gather]
    apply tells_gather
  rw [h] at htells
  cases htells with
  | entries hmalformed _ hhas hget =>
    constructor
    · intro c hc hwanted
      have hentry := List.find?_eq_none.1 hmalformed c hc
      obtain ⟨e, he⟩ : ∃ e, c.entry? = some e := by
        simpa [hwanted, Option.ne_none_iff_exists'] using hentry
      obtain ⟨l, -, hrow⟩ := exists_line_of_mem_candidates hc
      have hamounts := amountsTo_of_entry? hrow he
      use e, he, hamounts
      apply measures_percent_iff hamounts.time
    · intro s e he
      have hs : s ∈ wanted := by
        apply (hhas s).1
        rw [Table.has, he]
        rfl
      obtain ⟨c, hlast, hentry⟩ := hget s hs
      use hs, c, hlast, hentry.symm.trans he

/-- A sheet with a row for a processor and a memory cell. -/
def sheetIn (cpu rss : Text) : Text := Text.unlines
  ["## Results".toList,
    "| `a` | 1 | 1ms | n/a | ".toList ++ cpu ++ " | ".toList ++ rss ++ " | x |".toList]

/-- Spaces and commas do not matter, and neither do blanks in front of the unit. -/
theorem amountsTo_of_ofText_spaced :
  ∃ (b : Baseline Binary64) (c : SheetCells) (e : BaselineFigures Binary64),
    ofText (sheetIn "7 5.5 %".toList "10,240\tKB".toList) ["a".toList] = .ok b
    ∧ Table.get? "a".toList b = some e ∧ c.entry? = some e
    ∧ Measures ['K', 'B'] c.rss e.rss ∧ Measures ['%'] c.cpu e.cpu ∧ e.rss = .ofInt 10240
  := by
  have hvalue : ((ofText (sheetIn "7 5.5 %".toList "10,240\tKB".toList)
      ["a".toList]).toOption.bind (Table.get? "a".toList)).map (·.rss) = some (.ofInt 10240) := by
    decide +kernel
  have hpercent : ((lastRow? (candidates (sheetIn "7 5.5 %".toList "10,240\tKB".toList))
      "a".toList).map fun c => (c.cpu.count '%', (Text.strip [' ', ','] c.cpu).getLast?)) =
        some (1, some '%') := by
    decide +kernel
  obtain ⟨e, he, hrss⟩ := Option.map_eq_some_iff.1 hvalue
  obtain ⟨b, hb, he⟩ := Option.bind_eq_some_iff.1 he
  have hb := eq_ok_of_toOption_eq_some hb
  obtain ⟨hrows, hentries⟩ := amountsTo_of_ofText hb
  obtain ⟨hwanted, c, hlast, hentry⟩ := hentries _ _ he
  obtain ⟨hmem, hname⟩ := mem_of_lastRow? hlast
  obtain ⟨e', he', hamounts, hiff⟩ := hrows c hmem (hname ▸ hwanted)
  obtain rfl := Option.some.inj (hentry.symm.trans he')
  simp only [hlast, Option.map_some, Option.some.injEq, Prod.mk.injEq] at hpercent
  exact ⟨b, c, e, hb, he, hentry, hamounts.memory, hiff.2 hpercent, hrss⟩

/-- A percent sign among the digits makes no difference, though the cell is in no unit then. -/
theorem entry_of_stray_percent :
  ∃ c e, lastRow? (candidates (sheetIn "5%0".toList "1KB".toList)) "a".toList = some c
    ∧ (ofText (sheetIn "5%0".toList "1KB".toList) ["a".toList]).toOption.bind
      (Table.get? "a".toList) = some e
    ∧ c.cpu = "5%0".toList ∧ e.cpu = .ofInt 50 ∧ ∀ x, ¬ Measures ['%'] c.cpu x
  := by
  have hrow : (lastRow? (candidates (sheetIn "5%0".toList "1KB".toList)) "a".toList).map (·.cpu) =
      some "5%0".toList := by
    decide +kernel
  have hvalue : ((ofText (sheetIn "5%0".toList "1KB".toList) ["a".toList]).toOption.bind
      (Table.get? "a".toList)).map (·.cpu) = some (.ofInt 50) := by
    decide +kernel
  obtain ⟨c, hc, hcpu⟩ := Option.map_eq_some_iff.1 hrow
  obtain ⟨e, he, he'⟩ := Option.map_eq_some_iff.1 hvalue
  refine ⟨c, e, hc, he, hcpu, he', ?_⟩
  rintro x ⟨t, -, hcell⟩
  have hlast := congrArg List.getLast? hcell
  rw [hcpu, List.getLast?_concat] at hlast
  revert hlast
  decide

end Baseline

end PerfGate
