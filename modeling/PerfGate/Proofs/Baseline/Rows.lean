import PerfGate.Baseline.Row
import PerfGate.Proofs.Text.Parts
import PerfGate.Proofs.Text.Pieces

/-!
# Reading rows back

Cells are legible if each is trimmed and free of bars, and the ones that mark a row are as
a row needs them.  The canonical line of legible cells is read back as those cells, and so is
the line that is written for a row, whether it is that one or the line the row came from.
-/

namespace PerfGate

namespace SheetCells

/-- The seven cells. -/
def toList (c : SheetCells) : List Text :=
  [c.scenario, c.rps, c.p99, c.avgLatency, c.cpu, c.rss, c.notes]

/-- Cells that can be read back from a line. -/
structure Legible (c : SheetCells) : Prop where
  /-- There is a name. -/
  scenario_ne_nil : c.scenario ≠ []
  /-- The name holds no backquote. -/
  quoteChar_notMem : quoteChar ∉ c.scenario
  /-- No cell holds a bar. -/
  bar_notMem : ∀ t ∈ c.toList, '|' ∉ t
  /-- No cell has blanks at its ends. -/
  trimmed : ∀ t ∈ c.toList, Text.trim t = t
  /-- The processor time is in percent. -/
  percent : '%' ∈ c.cpu
  /-- The memory is in kilobytes. -/
  kilobytes : ['K', 'B'] <:+: c.rss

/-- A name in backquotes. -/
def quoted (name : Text) : Text := quoteChar :: name ++ [quoteChar]

theorem getLast?_quoted (name : Text) :
  (quoted name).getLast? = some quoteChar
  := List.getLast?_concat

theorem trim_quoted (name : Text) :
  Text.trim (quoted name) = quoted name
  := by
  apply Text.trim_eq_self
  · intro c hc
    obtain rfl : quoteChar = c := by simpa [quoted] using hc
    decide
  · intro c hc
    obtain rfl : quoteChar = c := by simpa [getLast?_quoted] using hc
    decide

theorem isQuotedName_quoted {name : Text} (h : name ≠ []) :
  isQuotedName (quoted name) = true
  := by
  have hlen : 3 ≤ (quoted name).length := by
    have := List.length_pos_iff.2 h
    simp only [quoted, List.cons_append, List.length_cons, List.length_append, List.length_nil]
    omega
  have hhead : (quoted name).head? = some quoteChar := rfl
  simp [isQuotedName, hlen, hhead, getLast?_quoted]

theorem strip_quoted {name : Text} (h : quoteChar ∉ name) :
  Text.strip [quoteChar] (quoted name) = name
  := by
  have hname : ∀ c ∈ name, c ≠ quoteChar := by
    rintro c hc rfl
    exact h hc
  simpa [Text.strip, quoted] using hname

/-- A cell with a space on either side. -/
def spaced (cell : Text) : Text := [' '] ++ cell ++ [' ']

theorem trim_spaced (cell : Text) :
  Text.trim (spaced cell) = Text.trim cell
  := by
  have hblank : ∀ c ∈ [' '], Text.isBlank c = true := by
    intro c hc
    rw [List.mem_singleton.1 hc]
    rfl
  apply Text.trim_append hblank hblank

/-- The canonical line is its cells, each between spaces, with bars between and around them. -/
theorem line_eq_intercalate (c : SheetCells) :
  c.line = ['|'].intercalate
    ([] :: [quoted c.scenario, c.rps, c.p99, c.avgLatency, c.cpu, c.rss, c.notes].map spaced ++ [[]])
  := by
  simp [line, quoted, spaced]

theorem bar_notMem_spaced {cell : Text} (h : '|' ∉ cell) :
  '|' ∉ spaced cell
  := by
  simpa [spaced] using h

/-- The pieces of the canonical line. -/
theorem pieces_line {c : SheetCells} (h : ∀ t ∈ c.toList, '|' ∉ t) :
  Text.pieces (· == '|') c.line =
    [] :: [quoted c.scenario, c.rps, c.p99, c.avgLatency, c.cpu, c.rss, c.notes].map spaced ++ [[]]
  := by
  rw [Text.pieces_eq_splitOn, line_eq_intercalate]
  apply List.splitOn_intercalate
  · intro t ht
    simp only [List.cons_append, List.mem_cons, List.mem_append, List.mem_map, List.not_mem_nil,
      or_false] at ht
    have hname : '|' ∉ quoted c.scenario := by
      have hscenario := h c.scenario (by simp [toList])
      simpa [quoted, quoteChar] using hscenario
    rcases ht with rfl | ⟨cell, rfl | hcell, rfl⟩ | rfl
    · simp
    · apply bar_notMem_spaced hname
    · apply bar_notMem_spaced
      apply h cell
      simpa [toList] using Or.inr hcell
    · simp
  · simp

/-- The canonical line of trimmed cells without bars is read back as those cells, or it is no row
at all. -/
theorem ofLine?_line_eq {c : SheetCells} (hne : c.scenario ≠ []) (hquote : quoteChar ∉ c.scenario)
    (hbar : ∀ t ∈ c.toList, '|' ∉ t) (htrim : ∀ t ∈ c.toList, Text.trim t = t) :
  ofLine? c.line = if c.cpu.contains '%' && Text.occursIn ['K', 'B'] c.rss then some c else none
  := by
  have hstart : Text.startsWith ['|', ' ', quoteChar] c.line = true := by
    apply Text.startsWith_iff.2
    simp [line]
  simp only [toList, List.forall_mem_cons, List.not_mem_nil, false_implies, implies_true, and_true]
    at htrim
  obtain ⟨hscenario, hrps, hp99, havg, hcpu, hrss, hnotes⟩ := htrim
  rw [ofLine?, hstart, pieces_line hbar]
  simp only [List.map_cons, List.map_nil, List.cons_append, List.nil_append, trim_spaced,
    trim_quoted, strip_quoted hquote, isQuotedName_quoted hne, List.headD_cons, hscenario, hrps,
    hp99, havg, hcpu, hrss, hnotes]
  simp [hne]

/-- Legible cells are read back from their canonical line. -/
theorem ofLine?_line {c : SheetCells} (h : c.Legible) :
  ofLine? c.line = some c
  := by
  have hpercent : List.contains c.cpu '%' = true := by simpa using h.percent
  have hkilobytes := Text.occursIn_iff.2 h.kilobytes
  rw [ofLine?_line_eq h.scenario_ne_nil h.quoteChar_notMem h.bar_notMem h.trimmed, hpercent,
    hkilobytes]
  rfl

theorem getLast?_line (c : SheetCells) :
  c.line.getLast? = some '|'
  := by
  rw [line, List.getLast?_append]
  rfl

/-- The canonical line holds a character only if a cell does, or if it is one that stands
between cells. -/
theorem mem_line {c : SheetCells} {a : Char} (h : a ∈ c.line) :
  a ∈ ['|', ' ', quoteChar] ∨ ∃ t ∈ c.toList, a ∈ t
  := by
  simp only [line, toList, List.mem_append, List.mem_cons, List.not_mem_nil, or_false] at h ⊢
  grind

/-- What is known of the name that a row is read with. -/
structure IsName (name : Text) : Prop where
  /-- There is a name. -/
  ne_nil : name ≠ []
  /-- It holds no backquote. -/
  quoteChar_notMem : quoteChar ∉ name
  /-- It holds no bar. -/
  bar_notMem : '|' ∉ name
  /-- It has no blanks at its ends. -/
  trimmed : Text.trim name = name

/-- The name of a row that was read is a name, and all its characters are from the line. -/
theorem isName_of_ofLine? {l : Text} {c : SheetCells} (h : ofLine? l = some c) :
  IsName c.scenario ∧ ∀ a ∈ c.scenario, a ∈ l
  := by
  unfold ofLine? at h
  split at h
  · cases h
  · split at h
    · rename_i first name rps p99 avg cpu rss more hpieces
      dsimp only at h
      split at h
      · rename_i hrow
        obtain rfl := Option.some.inj h
        have hpiece : name ∈ l.splitOn '|' := by
          rw [← Text.pieces_eq_splitOn, hpieces]
          simp
        have hmem : ∀ a ∈ Text.trim (Text.strip [quoteChar] (Text.trim name)),
            a ≠ quoteChar ∧ a ∈ name := by
          intro a ha
          obtain ⟨hcell, hquote⟩ := List.mem_filter.1 (Text.mem_of_mem_trim ha)
          use by simpa using hquote, Text.mem_of_mem_trim hcell
        constructor
        · constructor
          · rw [Bool.and_eq_true] at hrow
            simpa using hrow.2
          · intro ha
            exact (hmem _ ha).1 rfl
          · intro ha
            exact Text.notMem_of_mem_splitOn hpiece (hmem _ ha).2
          · apply Text.trim_trim
        · intro a ha
          apply Text.mem_of_mem_splitOn hpiece (hmem a ha).2
      · cases h
    · cases h

/-- The cells of a row that was read have their units somewhere in them. -/
theorem units_of_ofLine? {l : Text} {c : SheetCells} (h : ofLine? l = some c) :
  '%' ∈ c.cpu ∧ ['K', 'B'] <:+: c.rss
  := by
  unfold ofLine? at h
  split at h
  · cases h
  · split at h
    · dsimp only at h
      split at h
      · rename_i hrow
        obtain rfl := Option.some.inj h
        simp only [Bool.and_eq_true] at hrow
        obtain ⟨⟨⟨-, hpercent⟩, hkilobytes⟩, -⟩ := hrow
        constructor
        · simpa using hpercent
        · apply Text.occursIn_iff.1 hkilobytes
      · cases h
    · cases h

/-- A line that is read as a row starts with a bar. -/
theorem head?_of_ofLine? {l : Text} {c : SheetCells} (h : ofLine? l = some c) :
  l.head? = some '|'
  := by
  unfold ofLine? at h
  split at h
  · simp at h
  · rename_i hstart
    obtain ⟨rest, rfl⟩ := Text.startsWith_iff.1 (by simpa using hstart)
    rfl

end SheetCells

namespace SheetRow

/-- The cells of a row are read back from the line that is written for it. -/
theorem ofLine?_line {r : SheetRow} (h : r.cells.Legible) :
  SheetCells.ofLine? r.line = some r.cells
  := by
  unfold line
  split
  · assumption
  · apply SheetCells.ofLine?_line h

/-- A row that was read has no lines above it yet, and is written as the line it was. -/
theorem line_of_ofLine? {l : Text} {r : SheetRow} (h : ofLine? l = some r) :
  r.leading = [] ∧ r.line = l
  := by
  obtain ⟨c, hc, rfl⟩ := Option.map_eq_some_iff.1 h
  constructor
  · rfl
  · simp [line, hc]

end SheetRow

end PerfGate
