import PerfGate.Proofs.Baseline.Cells
import PerfGate.Proofs.Baseline.RoundTrip
import PerfGate.Proofs.Fallible
import PerfGate.Proofs.History
import PerfGate.Snapshot

/-!
# Reloading a snapshot

A baseline that is read from a text has an entry for every wanted scenario, and each entry is
that of a row among the lines of the text (`exists_line_of_ofText`).  In the text of a snapshot
the lines that are rows are those of its medians, one for each scenario.  So the entry of a
scenario is what its own row is read back as (`eq_recorded_of_reload`).
-/

namespace PerfGate

namespace Baseline

/-! ### Entries and rows -/

theorem get?_enter {wanted : List ScenarioName} {b b' : Baseline Binary64} {r : SheetRow}
    (h : enter wanted b r = .ok b') {s : ScenarioName} {e : BaselineFigures Binary64}
    (hs : Table.get? s b' = some e) :
  Table.get? s b = some e ∨ r.cells.scenario = s ∧ r.cells.entry? = some e
  := by
  unfold enter at h
  dsimp only at h
  split at h
  · obtain rfl := Except.ok.inj h
    left
    apply hs
  · split at h
    · rename_i e' he'
      obtain rfl := Except.ok.inj h
      rw [Table.get?_set] at hs
      split at hs
      · rename_i hname
        right
        use hname.symm
        rw [he', hs]
      · left
        apply hs
    · cases h

theorem get?_foldlM_enter {wanted : List ScenarioName} {rows : List SheetRow}
    {b b' : Baseline Binary64} (h : rows.foldlM (enter wanted) b = .ok b') {s : ScenarioName}
    {e : BaselineFigures Binary64} (hs : Table.get? s b' = some e) :
  Table.get? s b = some e ∨ ∃ r ∈ rows, r.cells.scenario = s ∧ r.cells.entry? = some e
  := by
  induction rows generalizing b with
  | nil =>
    obtain rfl := Except.ok.inj h
    left
    apply hs
  | cons r rows ih =>
    rw [List.foldlM_cons] at h
    obtain ⟨b₁, henter, h⟩ := exists_ok_of_bind_eq_ok h
    rcases ih h with hfirst | ⟨q, hq, hrow⟩
    · rcases get?_enter henter hfirst with hold | hnew
      · left
        apply hold
      · right
        use r, List.mem_cons_self
    · right
      use q, List.mem_cons_of_mem r hq

/-- A baseline that was read has an entry for each wanted scenario, and each entry is that of a
line of the text. -/
theorem exists_line_of_ofText {t : Text} {wanted : List ScenarioName} {b : Baseline Binary64}
    (h : ofText t wanted = .ok b) :
  Covers b wanted ∧ ∀ s e, Table.get? s b = some e → ∃ l ∈ Text.lines t, ∃ c,
    SheetCells.ofLine? l = some c ∧ c.scenario = s ∧ c.entry? = some e
  := by
  unfold ofText ofSheet at h
  obtain ⟨b', hrows, h⟩ := exists_ok_of_bind_eq_ok h
  obtain ⟨_, hrequire, h⟩ := exists_ok_of_bind_eq_ok h
  obtain rfl := Except.ok.inj h
  constructor
  · apply firstLacking?_eq_none_iff.1
    rw [requireAll_eq] at hrequire
    split at hrequire
    · assumption
    · cases hrequire
  · intro s e hs
    rcases get?_foldlM_enter hrows hs with hnone | ⟨r, hr, hname, hentry⟩
    · cases hnone
    · obtain ⟨hl, hcells⟩ := BaselineSheet.source_of_mem_rows hr
      use r.source, hl, r.cells

end Baseline

/-! ### The lines of a snapshot -/

theorem isFigure_of_mem_signed {n : Int} {a : Char} (h : a ∈ Decimal.signed n) :
  SheetRow.IsFigure a
  := by
  unfold Decimal.signed at h
  split at h
  · rcases List.mem_cons.1 h with rfl | hdigit
    · right
      simp
    · left
      apply Decimal.isDigit_of_mem_digits hdigit
  · left
    apply Decimal.isDigit_of_mem_digits h

/-- The settings and the date that a snapshot shows. -/
def shownTexts (c : Config) (run : RunMeta) : List Text :=
  [run.date, c.policy.duration, c.backendTransport, c.mockScenario]

/-- The words of a snapshot that do not depend on the settings. -/
def snapshotWords : List Text :=
  ["# Baseline Snapshot".toList, [], "Date".toList, "Profile".toList, "Rounds".toList,
    "Duration per scenario".toList, "Upstream transport".toList, "Require upstream h2".toList,
    "Mock scenario".toList, "single-core ".toList, Report.quoted ['x'], Config.flagDigit true,
    Config.flagDigit false]

/-- The characters at which a text is cut into lines, and a line into cells. -/
def cutMarks : List Char := ['|', '\n']

theorem notMem_of_mem_cutMarks {t : Text} (h : t.all (fun b => !cutMarks.contains b) = true)
    {a : Char} (ha : a ∈ cutMarks) :
  a ∉ t
  := by
  intro hmem
  have hnone := List.all_eq_true.1 h a hmem
  rw [List.contains_iff_mem.2 ha] at hnone
  contradiction

section

variable {a : Char} (ha : a ∈ cutMarks)

include ha

theorem notMem_signed (n : Int) :
  a ∉ Decimal.signed n
  := by
  intro h
  apply (isFigure_of_mem_signed h).notMem
  simp only [cutMarks, List.mem_cons, List.not_mem_nil, or_false] at ha ⊢
  tauto

theorem notMem_item {name value : Text} (hname : a ∉ name) (hvalue : a ∉ value) :
  a ∉ Report.item name value
  := by
  have hdash : a ∉ "- ".toList := notMem_of_mem_cutMarks (by decide) ha
  have hcolon : a ∉ ": ".toList := notMem_of_mem_cutMarks (by decide) ha
  simp only [Report.item, List.mem_append, not_or]
  use ⟨⟨hdash, hname⟩, hcolon⟩

theorem notMem_snapshotHead {c : Config} {run : RunMeta} (h : ∀ t ∈ shownTexts c run, a ∉ t)
    (rounds : Int) :
  ∀ l ∈ BaselineSheet.snapshotHead rounds c run, a ∉ l
  := by
  have hwords : ∀ t ∈ snapshotWords, t.all (fun b => !cutMarks.contains b) = true := by decide
  have hword : ∀ t ∈ snapshotWords, a ∉ t := fun t ht => notMem_of_mem_cutMarks (hwords t ht) ha
  simp only [snapshotWords, List.forall_mem_cons, List.not_mem_nil, false_implies, implies_true,
    and_true] at hword
  obtain ⟨htitle, hnil, hdate, hprofile, hrounds, hduration, htransport, hrequired, hmock, hcore,
    hquoted, htrue, hfalse⟩ := hword
  simp only [shownTexts, List.forall_mem_cons, List.not_mem_nil, false_implies, implies_true,
    and_true] at h
  obtain ⟨hdate', hduration', htransport', hmock'⟩ := h
  have hshape : a ∉ "single-core ".toList ++ Report.quoted c.shape := by
    have hthreads := notMem_signed ha c.wrkThreads
    have hconnections := notMem_signed ha c.connections
    simp only [Report.quoted, Config.shape, List.cons_append, List.nil_append, List.mem_append,
      List.mem_cons, List.not_mem_nil, or_false, not_or] at hquoted ⊢
    obtain ⟨hquote, hcross, -⟩ := hquoted
    exact ⟨hcore, hquote, ⟨hthreads, hcross, hconnections⟩, hquote⟩
  have hflag : a ∉ Config.flagDigit c.requireBackendH2 := by
    cases c.requireBackendH2
    · apply hfalse
    · apply htrue
  simp only [BaselineSheet.snapshotHead, List.forall_mem_cons, List.not_mem_nil, false_implies,
    implies_true, and_true]
  refine ⟨htitle, hnil, notMem_item ha hdate hdate', notMem_item ha hprofile hshape,
    notMem_item ha hrounds (notMem_signed ha rounds), notMem_item ha hduration hduration',
    notMem_item ha htransport htransport', notMem_item ha hrequired hflag,
    notMem_item ha hmock hmock', hnil⟩

end

namespace SheetRow

/-- Whether a text can stand in a row as a cell. -/
structure IsCell (t : Text) : Prop where
  /-- It holds no bar. -/
  bar_notMem : '|' ∉ t
  /-- It holds no line feed. -/
  feed_notMem : '\n' ∉ t
  /-- It has no blanks at its ends. -/
  trimmed : Text.trim t = t

/-- The marks behind a number in a cell. -/
def marks : List Char := ['m', 's', '%', 'K', 'B']

/-- A text of figures and marks can stand in a row. -/
theorem isCell_of_forall {t : Text} (h : ∀ a ∈ t, IsFigure a ∨ a ∈ marks) :
  IsCell t
  := by
  have hblank : ∀ a ∈ t, Text.isBlank a = false := by
    intro a ha
    rcases h a ha with hfigure | hmem
    · apply hfigure.isBlank
    · unfold marks at hmem
      fin_cases hmem <;> rfl
  constructor
  · intro hbar
    rcases h _ hbar with hfigure | hmem
    · apply hfigure.notMem
      simp
    · simp [marks] at hmem
  · intro hfeed
    cases hblank _ hfeed
  · apply Text.trim_eq_self
    · intro a ha
      apply hblank a (List.mem_of_head? ha)
    · intro a ha
      apply hblank a (List.mem_of_getLast? ha)

/-- The beginning of a number with marks behind it can stand in a row. -/
theorem isCell_take (x : Binary64) (places : Nat) {mark : Text} (hmark : ∀ a ∈ mark, a ∈ marks)
    (n : Nat) :
  IsCell ((x.fixed places ++ mark).take n)
  := by
  apply isCell_of_forall
  intro a ha
  rcases List.mem_append.1 (List.mem_of_mem_take ha) with ha | ha
  · left
    apply isFigure_of_mem_fixed ha
  · right
    apply hmark a ha

theorem isCell_notes (rounds : Int) :
  IsCell ("median of ".toList ++ Decimal.signed rounds ++ " rounds".toList)
  := by
  have hnotMem : ∀ a ∈ cutMarks, a ∉ "median of ".toList → a ∉ " rounds".toList →
      a ∉ "median of ".toList ++ Decimal.signed rounds ++ " rounds".toList := by
    intro a ha hfront hbehind hmem
    rcases List.mem_append.1 hmem with hmem | hmem
    · rcases List.mem_append.1 hmem with hmem | hmem
      · exact hfront hmem
      · exact notMem_signed ha rounds hmem
    · exact hbehind hmem
  constructor
  · apply hnotMem '|' (by decide) (by decide) (by decide)
  · apply hnotMem '\n' (by decide) (by decide) (by decide)
  · apply Text.trim_eq_self
    · intro a ha
      obtain rfl := Option.some.inj ha
      rfl
    · intro a ha
      rw [List.getLast?_append] at ha
      obtain rfl := Option.some.inj ha
      rfl

theorem isCell_notMeasured : IsCell "n/a".toList := by
  constructor
  · decide
  · decide
  · decide

/-- The cells of a row of metrics can all stand in a row, if the name can. -/
theorem isCell_ofMetrics {s : ScenarioName} (hs : IsCell s) (m : Metrics Binary64) (rounds : Int) :
  ∀ t ∈ (ofMetrics s m rounds).cells.toList, IsCell t
  := by
  have hrate : IsCell ((m.rps.fixed 2).take cellWidth) := by
    rw [← List.append_nil (m.rps.fixed 2)]
    apply isCell_take
    simp
  simp only [SheetCells.toList, List.forall_mem_cons, List.not_mem_nil, false_implies, implies_true,
    and_true]
  refine ⟨hs, hrate, isCell_take _ 2 (by simp [marks]) cellWidth, isCell_notMeasured,
    isCell_take _ 2 (by simp [marks]) cellWidth, isCell_take _ 0 (by simp [marks]) cellWidth,
    isCell_notes rounds⟩

theorem line_ofMetrics (s : ScenarioName) (m : Metrics Binary64) (rounds : Int) :
  (ofMetrics s m rounds).line = (ofMetrics s m rounds).cells.line
  := by
  have hsource : SheetCells.ofLine? (ofMetrics s m rounds).source = none := rfl
  rw [line, hsource, if_neg]
  rintro ⟨⟩

end SheetRow

namespace BaselineSheet

open SheetRow

variable {h : History Binary64} {c : Config} {run : RunMeta}

/-- The lines of a snapshot. -/
theorem mem_toLines_snapshot {k : Text} (hk : k ∈ (snapshot h c run).toLines) :
  k ∈ snapshotHead h.rounds c run ∨ k = resultsHeading ∨ k ∈ (snapshot h c run).tableHead
    ∨ ∃ s ∈ h.scenarios,
        k = (SheetRow.ofMetrics s (h.medians s).toMetrics h.rounds).cells.line
  := by
  have hlines : (snapshot h c run).toLines = snapshotHead h.rounds c run ++
      (resultsHeading :: (snapshot h c run).tableHead ++
        (h.scenarios.map fun s => SheetRow.ofMetrics s (h.medians s).toMetrics h.rounds).flatMap
          (fun r => r.leading ++ [r.line]) ++ []) := rfl
  rw [hlines, List.append_nil, List.flatMap_map] at hk
  rcases List.mem_append.1 hk with hk | hk
  · left
    apply hk
  · right
    rcases List.mem_cons.1 hk with hk | hk
    · left
      apply hk
    · right
      rcases List.mem_append.1 hk with hk | hk
      · left
        apply hk
      · right
        obtain ⟨s, hs, hk⟩ := List.mem_flatMap.1 hk
        use s, hs
        rw [← SheetRow.line_ofMetrics]
        apply List.mem_singleton.1 hk

/-- No line of the table head is a row. -/
theorem ofLine?_tableHead :
  ∀ k ∈ (snapshot h c run).tableHead, ∀ p ∈ k.splitOn '\n',
    SheetCells.ofLine? (Text.dropReturn p) = none
  := by
  have hhead : (snapshot h c run).tableHead = ({} : BaselineSheet).tableHead := rfl
  rw [hhead]
  decide

/-- A line of the text of a snapshot that is a row is that of a scenario. -/
theorem exists_scenario_of_ofLine? (hbar : ∀ t ∈ shownTexts c run, '|' ∉ t)
    (hname : ∀ s ∈ h.scenarios, SheetCells.IsName s ∧ '\n' ∉ s) {l : Text} {cells : SheetCells}
    (hl : l ∈ Text.lines (snapshot h c run).toText) (hcells : SheetCells.ofLine? l = some cells) :
  ∃ s ∈ h.scenarios, cells = (SheetRow.ofMetrics s (h.medians s).toMetrics h.rounds).cells
    ∧ '%' ∈ cells.cpu
  := by
  have htext : (snapshot h c run).toText = Text.unlines (snapshot h c run).toLines := rfl
  rw [htext, Text.lines, Text.rawLines_unlines_eq] at hl
  obtain ⟨p, hp, rfl⟩ := List.mem_map.1 hl
  obtain ⟨k, hk, hp⟩ := List.mem_flatMap.1 hp
  have hmark : '|' ∈ k := by
    have hhead := SheetCells.head?_of_ofLine? hcells
    apply Text.mem_of_mem_splitOn hp
    apply Text.mem_of_mem_dropReturn (List.mem_of_head? hhead)
  rcases mem_toLines_snapshot hk with hhead | rfl | htable | ⟨s, hs, rfl⟩
  · cases notMem_snapshotHead (by simp [cutMarks]) hbar _ k hhead hmark
  · have hheading : '|' ∉ resultsHeading := by decide
    cases hheading hmark
  · rw [ofLine?_tableHead k htable p hp] at hcells
    cases hcells
  · use s, hs
    obtain ⟨hs, hfeed⟩ := hname s hs
    have hcell := SheetRow.isCell_ofMetrics ⟨hs.bar_notMem, hfeed, hs.trimmed⟩
      (h.medians s).toMetrics h.rounds
    generalize hrow : (SheetRow.ofMetrics s (h.medians s).toMetrics h.rounds).cells = row at *
    have hscenario : row.scenario = s := by rw [← hrow]; rfl
    have hline : '\n' ∉ row.line := by
      intro hmem
      rcases SheetCells.mem_line hmem with hmem | ⟨t, ht, hmem⟩
      · revert hmem
        decide
      · exact (hcell t ht).feed_notMem hmem
    rw [List.splitOn_eq_singleton hline, List.mem_singleton] at hp
    have hreturn : row.line.getLast? ≠ some '\r' := by
      rw [SheetCells.getLast?_line]
      decide
    rw [hp, Text.dropReturn_eq_self_iff.2 hreturn,
      SheetCells.ofLine?_line_eq (hscenario ▸ hs.ne_nil) (hscenario ▸ hs.quoteChar_notMem)
        (fun t ht => (hcell t ht).bar_notMem) (fun t ht => (hcell t ht).trimmed)] at hcells
    split at hcells
    · rename_i hmarks
      obtain rfl := Option.some.inj hcells
      use rfl
      rw [Bool.and_eq_true] at hmarks
      simpa using hmarks.1
    · cases hcells

/-- The entry of a scenario in a baseline that was reloaded from a snapshot. -/
theorem eq_recorded_of_reload (hbar : ∀ t ∈ shownTexts c run, '|' ∉ t) {b : Baseline Binary64}
    (hb : Baseline.ofText (snapshot h c run).toText h.scenarios = .ok b) :
  Covers b h.scenarios ∧ ∀ s ∈ h.scenarios, ∀ e, Table.get? s b = some e →
    e.rps = SheetRow.recordedRate (h.medians s).rps
      ∧ e.p99 = SheetRow.recordedLatency (h.medians s).p99
      ∧ e.cpuCost = SheetRow.recordedCost (h.medians s).cpu (h.medians s).rps
  := by
  obtain ⟨hcovers, hlines⟩ := Baseline.exists_line_of_ofText hb
  use hcovers
  have hname : ∀ s ∈ h.scenarios, SheetCells.IsName s ∧ '\n' ∉ s := by
    intro s hs
    obtain ⟨e, he⟩ := hcovers.get? hs
    obtain ⟨l, hl, cells, hcells, rfl, -⟩ := hlines s e he
    obtain ⟨hname, hmem⟩ := SheetCells.isName_of_ofLine? hcells
    use hname
    intro hfeed
    exact Text.feed_notMem_of_mem_lines hl (hmem _ hfeed)
  intro s hs e he
  obtain ⟨l, hl, cells, hcells, hscenario, hentry⟩ := hlines s e he
  obtain ⟨s', hs', rfl, hpercent⟩ := exists_scenario_of_ofLine? hbar hname hl hcells
  obtain rfl : s' = s := hscenario
  obtain ⟨r, hr, rfl⟩ := Option.map_eq_some_iff.1 hentry
  obtain ⟨hrps, hp99, hcpu⟩ := SheetRow.eq_recorded_of_metrics? hpercent hr
  use hrps, hp99
  show cpuCost r.cpu r.rps = _
  rw [hcpu, hrps]
  rfl

end BaselineSheet

end PerfGate
