import PerfGate.Proofs.Baseline.Figure
import PerfGate.Proofs.Baseline.Reload

/-!
# Fresh snapshots

What the text of a snapshot is read as, for any numbers with the laws of cells.  A number without a
minus and with few digits fills a cell with the nearest count of steps, and nothing is cut off; so
the metrics of a row are read back as rounded ones (`SheetRow.exists_read?_write`).  The candidates
in the text are the rows of the scenarios, whatever its head says
(`BaselineSheet.candidates_write`).
-/

namespace PerfGate

open Binary64

section

variable {α : Type} [Figure α]

/-! ### Cells -/

/-- Whether a number is what a cell of another one is read as: the one nearest to the count of steps
nearest to it. -/
def IsRounded (places : Nat) (x y : α) : Prop :=
  ∃ v k, Figure.value? x = some v ∧ IsNearest places v k ∧ y = Figure.ofFraction k (10 ^ places)

/-- Whether a number is written without a minus, and with few digits. -/
structure IsPlain (x : α) : Prop where
  /-- There is no minus. -/
  unsigned : Figure.isSigned x = false
  /-- The number is finite and has few digits. -/
  below : ∃ v, Figure.value? x = some v ∧ v < 10 ^ 51

/-- Whether all the cells of metrics are written without a minus, and with few digits. -/
structure Metrics.IsPlain (m : Metrics α) : Prop where
  /-- The rate. -/
  rps : PerfGate.IsPlain m.rps
  /-- The latency, in milliseconds. -/
  p99 : PerfGate.IsPlain (m.p99 / Scalar.ofInt 1000)
  /-- The processor time. -/
  cpu : PerfGate.IsPlain m.cpu
  /-- The memory. -/
  rss : PerfGate.IsPlain m.rss

/-- Whether metrics are what the cells of other ones are read as: rate and processor time rounded to
two places, a thousand times the milliseconds of the latency rounded to two places, and the memory
rounded to a whole number. -/
structure Metrics.ReadsAs (m r : Metrics α) : Prop where
  /-- The rate. -/
  rps : IsRounded 2 m.rps r.rps
  /-- The latency. -/
  p99 : ∃ ms, IsRounded 2 (m.p99 / Scalar.ofInt 1000) ms ∧ r.p99 = ms * Scalar.ofInt 1000
  /-- The processor time. -/
  cpu : IsRounded 2 m.cpu r.cpu
  /-- The memory. -/
  rss : IsRounded 0 m.rss r.rss

variable [LawfulFigure α] {x : α}

theorem IsPlain.exists_withPoint (h : IsPlain x) (places : Nat) :
  ∃ v k, Figure.value? x = some v ∧ IsNearest places v k ∧ k ≤ 10 ^ (51 + places)
    ∧ Figure.fixed places x = withPoint places k
  := by
  obtain ⟨v, hv, hbelow⟩ := h.below
  obtain ⟨k, hk, hfixed⟩ := LawfulFigure.exists_fixed_eq hv h.unsigned places
  use v, k, hv, hk, hk.le hbelow, hfixed

theorem IsPlain.isFigure (h : IsPlain x) {places : Nat} {c : Char}
    (hc : c ∈ Figure.fixed places x) :
  SheetRow.IsFigure c
  := by
  obtain ⟨v, k, -, -, -, hfixed⟩ := h.exists_withPoint places
  rw [hfixed] at hc
  rcases mem_withPoint hc with hdigit | rfl
  · left
    apply hdigit
  · right
    simp

theorem IsPlain.length_le (h : IsPlain x) (places : Nat) :
  (Figure.fixed places x).length ≤ places + 53
  := by
  obtain ⟨v, k, -, -, hk, hfixed⟩ := h.exists_withPoint places
  have hlength := length_withPoint_le hk
  rw [hfixed]
  omega

/-- A number in a cell of its own is read back. -/
theorem IsPlain.exists_unsigned? (h : IsPlain x) {places : Nat} (hplaces : places ≤ 2) :
  ∃ y, Figure.unsigned? (Figure.fixed places x) = some y ∧ IsRounded places x y
  := by
  obtain ⟨v, k, hv, hnearest, hk, hfixed⟩ := h.exists_withPoint places
  have hsmall : k ≤ 2 ^ 400 := hk.trans (ten_pow_le_two_pow (by omega))
  use Figure.ofFraction k (10 ^ places)
  constructor
  · rw [hfixed, LawfulFigure.unsigned?_withPoint hplaces hsmall]
  · use v, k

/-- A latency is read back from its cell. -/
theorem IsPlain.exists_read? (h : IsPlain x) :
  ∃ y, Latency.read? (Figure.fixed 2 x ++ ['m', 's']) = some (y * Scalar.ofInt 1000)
    ∧ IsRounded 2 x y
  := by
  obtain ⟨y, hy, hrounded⟩ := h.exists_unsigned? le_rfl
  obtain ⟨-, k, -, -, -, hfixed⟩ := h.exists_withPoint 2
  have hself : Text.lower (Text.strip [' ', '\t'] (Figure.fixed 2 x ++ ['m', 's'])) =
      Figure.fixed 2 x ++ ['m', 's'] := by
    apply SheetRow.lower_strip_eq_self
    intro c hc
    rcases List.mem_append.1 hc with hc | hc
    · left
      apply h.isFigure hc
    · right
      apply hc
  have hlength : Numeral.unsignedLength (Figure.fixed 2 x ++ ['m', 's']) =
      (Figure.fixed 2 x).length := by
    rw [hfixed]
    apply unsignedLength_withPoint_append (by omega)
    intro c hc
    obtain rfl := Option.some.inj hc
    rfl
  have hpos : (Figure.fixed 2 x).length ≠ 0 := by
    rw [hfixed, withPoint, if_neg (by omega), List.length_append, List.length_cons]
    omega
  use y
  constructor
  · unfold Latency.read?
    dsimp only
    rw [hself, hlength, if_neg hpos, List.drop_left, List.take_left, hy]
    rfl
  · apply hrounded

/-! ### Rows -/

namespace SheetRow

variable {m : Metrics α}

/-- Nothing is cut off from the cells of a row. -/
theorem cells_write (h : m.IsPlain) (s : ScenarioName) (rounds : Int) :
  (write s m rounds).cells =
    { scenario := s
      rps := Figure.fixed 2 m.rps
      p99 := Figure.fixed 2 (m.p99 / Scalar.ofInt 1000) ++ ['m', 's']
      avgLatency := "n/a".toList
      cpu := Figure.fixed 2 m.cpu ++ ['%']
      rss := Figure.fixed 0 m.rss ++ ['K', 'B']
      notes := "median of ".toList ++ Decimal.signed rounds ++ " rounds".toList }
  := by
  have hwidth : ∀ {t : Text} (mark : Text), t.length ≤ 55 → mark.length ≤ 2 →
      (t ++ mark).take cellWidth = t ++ mark := by
    intro t mark ht hmark
    apply List.take_of_length_le
    rw [List.length_append, cellWidth]
    omega
  have hrate := hwidth [] (h.rps.length_le 2) (by decide)
  rw [List.append_nil] at hrate
  simp only [write, hrate, hwidth ['m', 's'] (h.p99.length_le 2) (by decide),
    hwidth ['%'] (h.cpu.length_le 2) (by decide),
    hwidth ['K', 'B'] ((h.rss.length_le 0).trans (by decide)) (by decide)]

/-- Of a cell only the marks are left out. -/
theorem strip_fixed_append {x : α} (h : PerfGate.IsPlain x) (places : Nat) {cs : Text}
    (hcs : ∀ c ∈ cs, c ∈ [' ', ',', '%']) (mark : Text) :
  Text.strip cs (Figure.fixed places x ++ mark) =
    Figure.fixed places x ++ Text.strip cs mark
  := by
  have hself : Text.strip cs (Figure.fixed places x) = Figure.fixed places x := by
    apply strip_eq_self
    intro c hc hmem
    apply (h.isFigure hc).notMem
    have hin := hcs c hmem
    simp only [List.mem_cons, List.not_mem_nil, or_false] at hin ⊢
    tauto
  have happend : Text.strip cs (Figure.fixed places x ++ mark) =
      Text.strip cs (Figure.fixed places x) ++ Text.strip cs mark := List.filter_append _ _
  rw [happend, hself]

theorem withoutEnd_append (t back : Text) :
  withoutEnd back (t ++ back) = t
  := by
  have hend : Text.endsWith back (t ++ back) = true := Text.endsWith_iff.2 (List.suffix_append t back)
  rw [withoutEnd, if_pos hend, List.length_append, Nat.add_sub_cancel, List.take_left]

/-- The metrics of a row are read back. -/
theorem exists_read?_write (h : m.IsPlain) (s : ScenarioName) (rounds : Int) :
  ∃ r, (write s m rounds).cells.read? = some r ∧ m.ReadsAs r
  := by
  obtain ⟨rps, hrps, hrps'⟩ := h.rps.exists_unsigned? le_rfl
  obtain ⟨ms, hms, hms'⟩ := h.p99.exists_read?
  obtain ⟨cpu, hcpu, hcpu'⟩ := h.cpu.exists_unsigned? le_rfl
  obtain ⟨rss, hrss, hrss'⟩ := h.rss.exists_unsigned? (Nat.zero_le 2)
  have hrate : Text.strip [' ', ','] (Figure.fixed 2 m.rps) = Figure.fixed 2 m.rps := by
    rw [← List.append_nil (Figure.fixed 2 m.rps), strip_fixed_append h.rps 2 (by simp)]
    rfl
  have hpercent : Text.strip [' ', ',', '%'] (Figure.fixed 2 m.cpu ++ ['%']) =
      Figure.fixed 2 m.cpu := by
    rw [strip_fixed_append h.cpu 2 (by simp)]
    simp [Text.strip]
  have hkilobytes : withoutEnd ['K', 'B']
      (Text.strip [' ', ','] (Figure.fixed 0 m.rss ++ ['K', 'B'])) = Figure.fixed 0 m.rss := by
    rw [strip_fixed_append h.rss 0 (by simp)]
    apply withoutEnd_append
  use { rps, p99 := ms * Scalar.ofInt 1000, cpu, rss }
  constructor
  · rw [cells_write h, SheetCells.read?]
    dsimp only
    rw [hrate, hpercent, hkilobytes, hrps, hms, hcpu, hrss]
    rfl
  · constructor
    · apply hrps'
    · use ms
    · apply hcpu'
    · apply hrss'

/-- The cells of a row can be read back from its line. -/
theorem legible_write (h : m.IsPlain) {s : ScenarioName} (hname : SheetCells.IsName s)
    (hfeed : '\n' ∉ s) (rounds : Int) :
  (write s m rounds).cells.Legible ∧ ∀ t ∈ (write s m rounds).cells.toList, '\n' ∉ t
  := by
  have hcell : ∀ {x : α}, PerfGate.IsPlain x → ∀ (places : Nat) (mark : Text),
      (∀ a ∈ mark, a ∈ marks) → IsCell (Figure.fixed places x ++ mark) := by
    intro x hx places mark hmark
    apply isCell_of_forall
    intro a ha
    rcases List.mem_append.1 ha with ha | ha
    · left
      apply hx.isFigure ha
    · right
      apply hmark a ha
  have hrate := hcell h.rps 2 [] (by simp)
  rw [List.append_nil] at hrate
  have hcells : ∀ t ∈ (write s m rounds).cells.toList, IsCell t := by
    rw [cells_write h]
    simp only [SheetCells.toList, List.forall_mem_cons, List.not_mem_nil, false_implies,
      implies_true, and_true]
    refine ⟨⟨hname.bar_notMem, hfeed, hname.trimmed⟩, hrate,
      hcell h.p99 2 _ (by simp [marks]), isCell_notMeasured, hcell h.cpu 2 _ (by simp [marks]),
      hcell h.rss 0 _ (by simp [marks]), isCell_notes rounds⟩
  constructor
  · constructor
    · apply hname.ne_nil
    · apply hname.quoteChar_notMem
    · apply fun t ht => (hcells t ht).bar_notMem
    · apply fun t ht => (hcells t ht).trimmed
    · rw [cells_write h]
      simp
    · rw [cells_write h]
      apply (List.suffix_append _ _).isInfix
  · apply fun t ht => (hcells t ht).feed_notMem

end SheetRow

namespace BaselineSheet

/-! ### Texts -/

/-- The rows of a results section are found in it. -/
theorem rowsBelow_line {cs : List SheetCells} (h : ∀ c ∈ cs, c.Legible) :
  rowsBelow (some resultsHeading) (cs.map SheetCells.line) = cs
  := by
  induction cs with
  | nil => rfl
  | cons c cs ih =>
    have hline := SheetCells.ofLine?_line (h c List.mem_cons_self)
    have hmark := not_heading_of_ofLine? hline
    rw [List.map_cons, rowsBelow, hmark, if_neg Bool.false_ne_true, if_pos rfl, hline,
      ih fun d hd => h d (List.mem_cons_of_mem c hd)]
    rfl

omit [LawfulFigure α]

/-- No line in front of the results begins like their heading. -/
theorem not_prefix_snapshotHead (rounds : Int) (c : Config) (run : RunMeta) :
  ∀ l ∈ snapshotHead rounds c run, ¬ resultsHeading <+: l
  := by
  have hitem : ∀ name value, ¬ resultsHeading <+: Report.item name value := by
    rintro name value ⟨rest, h⟩
    have hhead : some '#' = some '-' := congrArg List.head? h
    revert hhead
    decide
  simp only [snapshotHead, List.forall_mem_cons, List.not_mem_nil, false_implies, implies_true,
    and_true]
  exact ⟨by decide, by decide, hitem _ _, hitem _ _, hitem _ _, hitem _ _, hitem _ _, hitem _ _,
    hitem _ _, by decide⟩

variable {h : History α} {c : Config} {run : RunMeta}

/-- The rows of the scenarios of a history. -/
def rowsOf (h : History α) : List SheetCells :=
  h.scenarios.map fun s => (SheetRow.write s (h.medians s).toMetrics h.rounds).cells

theorem toText_write :
  (write h c run).toText = Text.unlines (snapshotHead h.rounds c run ++
    resultsHeading :: (({} : BaselineSheet).tableHead ++ (rowsOf h).map SheetCells.line))
  := by
  have htext : (write h c run).toText = Text.unlines (snapshotHead h.rounds c run ++
      (resultsHeading :: ({} : BaselineSheet).tableHead ++
        (h.scenarios.map fun s => SheetRow.write s (h.medians s).toMetrics h.rounds).flatMap
          (fun r => r.leading ++ [r.line]) ++ [])) := rfl
  have hrows : (h.scenarios.map fun s => SheetRow.write s (h.medians s).toMetrics h.rounds).flatMap
      (fun r => r.leading ++ [r.line]) = (rowsOf h).map SheetCells.line := by
    rw [List.flatMap_map, rowsOf, List.map_map, ← List.flatMap_pure_eq_map]
    rfl
  rw [htext, hrows, List.append_nil, List.cons_append]

/-- The candidates in the text of a snapshot are the rows of its scenarios. -/
theorem candidates_write (hshown : ∀ t ∈ shownTexts c run, '\n' ∉ t)
    (hrows : ∀ cells ∈ rowsOf h, cells.Legible ∧ ∀ t ∈ cells.toList, '\n' ∉ t) :
  candidates (write h c run).toText = rowsOf h
  := by
  have htable : ∀ l ∈ ({} : BaselineSheet).tableHead, '\n' ∉ l := by decide
  have hheading : '\n' ∉ resultsHeading
      ∧ Text.dropReturn resultsHeading = resultsHeading := by decide
  have hreturn : ({} : BaselineSheet).tableHead.map Text.dropReturn =
      ({} : BaselineSheet).tableHead := by decide
  have hnone : rowsBelow (some resultsHeading) ({} : BaselineSheet).tableHead = [] := by decide
  have hunder : ({} : BaselineSheet).tableHead.foldl under (some resultsHeading) =
      some resultsHeading := by decide
  have hfeed : ∀ l ∈ (rowsOf h).map SheetCells.line, '\n' ∉ l := by
    intro l hl hmem
    obtain ⟨cells, hcells, rfl⟩ := List.mem_map.1 hl
    rcases SheetCells.mem_line hmem with hmark | ⟨t, ht, hmem⟩
    · revert hmark
      decide
    · exact (hrows cells hcells).2 t ht hmem
  have hbars : ((rowsOf h).map SheetCells.line).map Text.dropReturn =
      (rowsOf h).map SheetCells.line := by
    apply Text.map_dropReturn_eq_self_iff.2
    intro l hl
    obtain ⟨cells, -, rfl⟩ := List.mem_map.1 hl
    rw [SheetCells.getLast?_line]
    decide
  have hlines : ∀ l ∈ snapshotHead h.rounds c run ++
      resultsHeading :: (({} : BaselineSheet).tableHead ++ (rowsOf h).map SheetCells.line),
      '\n' ∉ l := by
    rw [List.forall_mem_append, List.forall_mem_cons, List.forall_mem_append]
    exact ⟨notMem_snapshotHead (by decide) hshown h.rounds, hheading.1, htable, hfeed⟩
  have hpreamble : resultsHeading ∉ (snapshotHead h.rounds c run).map Text.dropReturn := by
    intro hmem
    obtain ⟨l, hl, heq⟩ := List.mem_map.1 hmem
    apply not_prefix_snapshotHead h.rounds c run l hl
    rw [← heq]
    apply Text.dropReturn_prefix
  rw [candidates, toText_write, Text.lines, Text.rawLines_unlines hlines, List.map_append,
    List.map_cons, List.map_append, hheading.2, hreturn, hbars, rowsBelow_preamble hpreamble,
    rowsBelow_append, hnone, hunder, List.nil_append,
    rowsBelow_line fun cells hcells => (hrows cells hcells).1]

end BaselineSheet

end

end PerfGate
