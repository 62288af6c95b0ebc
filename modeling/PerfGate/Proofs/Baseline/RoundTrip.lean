import PerfGate.Baseline.Sheet
import PerfGate.Proofs.Baseline.Rows

/-!
# Reading and writing baseline sheets

Reading loses nothing but carriage returns at line ends: the text of the sheet that a text is
differs from the text in those alone (`toText_ofText`).  Writing loses nothing of a legible
sheet: the sheet is read back from its text, each row with the line that was written for it
(`ofText_toText`).

Both rest on what `scan` does to the lines of a body: they are the lines of the rows it finds
and of what it leaves, in order, and lines that are no rows are put above the next row.
-/

namespace PerfGate

namespace BaselineSheet

/-- The lines of rows, each below the lines above it, and the lines after them. -/
def bodyLines (rows : List SheetRow) (rest : List Text) : List Text :=
  rows.flatMap (fun r => r.leading ++ [r.line]) ++ rest

theorem bodyLines_cons (r : SheetRow) (rows : List SheetRow) (rest : List Text) :
  bodyLines (r :: rows) rest = r.leading ++ r.line :: bodyLines rows rest
  := by
  simp [bodyLines]

/-! ### Nothing is lost -/

theorem bodyLines_pushLine (l : Text) (rows : List SheetRow) (rest : List Text) :
  bodyLines (pushLine l (rows, rest)).1 (pushLine l (rows, rest)).2 = l :: bodyLines rows rest
  := by
  cases rows with
  | nil => rfl
  | cons r rows => rfl

theorem ofLine?_of_rowAt? {inside : Bool} {l : Text} {r : SheetRow}
    (h : rowAt? inside l = some r) :
  SheetRow.ofLine? l = some r
  := by
  unfold rowAt? at h
  split at h
  · simp at h
  · apply h

/-- The lines of what `scan` finds are the lines it was given. -/
theorem bodyLines_scan (inside : Bool) (ls : List Text) :
  bodyLines (scan inside ls).1 (scan inside ls).2 = ls
  := by
  induction ls generalizing inside with
  | nil => rfl
  | cons l ls ih =>
    rw [scan]
    cases hrow : rowAt? inside l with
    | none =>
      dsimp only
      rw [bodyLines_pushLine, ih]
    | some r =>
      obtain ⟨hleading, hline⟩ := SheetRow.line_of_ofLine? (ofLine?_of_rowAt? hrow)
      dsimp only
      rw [bodyLines_cons, hleading, hline, ih]
      rfl

theorem toLines_ofBody (preamble : List Text) (finalNewline : Bool) (body : List Text) :
  (ofBody preamble finalNewline body).toLines = preamble ++ resultsHeading :: body
  := by
  have hbody := bodyLines_scan true body
  unfold ofBody
  cases hscan : scan true body with
  | mk rows rest =>
    rw [hscan] at hbody
    cases rows with
    | nil => simpa [toLines, bodyLines] using hbody
    | cons r rows =>
      -- the lines above the first row are the table head of the sheet
      have hline : ({ r with leading := [] } : SheetRow).line = r.line := rfl
      simpa [toLines, bodyLines, hline] using hbody

/-- A sheet has the lines of the text it was read from. -/
theorem toLines_ofText (t : Text) :
  (ofText t).toLines = Text.lines t
  := by
  have hsplit := List.takeWhile_append_dropWhile (p := (· != resultsHeading)) (l := Text.lines t)
  unfold ofText
  dsimp only
  cases hdrop : (Text.lines t).dropWhile (· != resultsHeading) with
  | nil =>
    rw [hdrop] at hsplit
    simpa [toLines] using hsplit
  | cons l body =>
    have hl : l = resultsHeading := by
      have := List.head?_dropWhile_not (· != resultsHeading) (Text.lines t)
      simpa [hdrop] using this
    rw [hdrop, hl] at hsplit
    dsimp only
    rw [toLines_ofBody, hsplit]

theorem finalNewline_ofText (t : Text) :
  (ofText t).finalNewline = (t.isEmpty || t.getLast? == some '\n')
  := by
  unfold ofText
  dsimp only
  split
  · rfl
  · unfold ofBody
    split <;> rfl

/-! ### The lines that rows come from -/

/-- What is put above the next row changes neither its cells nor the line it was read from. -/
theorem exists_of_mem_pushLine {l : Text} {p : List SheetRow × List Text} {r : SheetRow}
    (h : r ∈ (pushLine l p).1) :
  ∃ q ∈ p.1, q.cells = r.cells ∧ q.source = r.source
  := by
  unfold pushLine at h
  split at h
  · cases h
  · rename_i q rows rest
    rcases List.mem_cons.1 h with rfl | h
    · use q, List.mem_cons_self
    · use r, List.mem_cons_of_mem q h

/-- A row that is found among lines was read from one of them. -/
theorem source_of_mem_scan {inside : Bool} {ls : List Text} {r : SheetRow}
    (h : r ∈ (scan inside ls).1) :
  r.source ∈ ls ∧ SheetCells.ofLine? r.source = some r.cells
  := by
  induction ls generalizing inside r with
  | nil => cases h
  | cons l ls ih =>
    rw [scan] at h
    split at h
    · rename_i row hrow
      rcases List.mem_cons.1 h with rfl | h
      · obtain ⟨c, hc, rfl⟩ := Option.map_eq_some_iff.1 (ofLine?_of_rowAt? hrow)
        use List.mem_cons_self, hc
      · obtain ⟨hmem, hcells⟩ := ih h
        use List.mem_cons_of_mem l hmem, hcells
    · obtain ⟨q, hq, hcells, hsource⟩ := exists_of_mem_pushLine h
      obtain ⟨hmem, hline⟩ := ih hq
      rw [← hsource, ← hcells]
      use List.mem_cons_of_mem l hmem, hline

/-- Every row of a sheet that was read is a line of the text. -/
theorem source_of_mem_rows {t : Text} {r : SheetRow} (h : r ∈ (ofText t).rows) :
  r.source ∈ Text.lines t ∧ SheetCells.ofLine? r.source = some r.cells
  := by
  unfold ofText at h
  dsimp only at h
  split at h
  · cases h
  · rename_i l body hbody
    have hmem : ∃ q ∈ (scan true body).1, q.cells = r.cells ∧ q.source = r.source := by
      unfold ofBody at h
      split at h
      · cases h
      · rename_i q rows rest hscan
        rw [hscan]
        rcases List.mem_cons.1 h with rfl | h
        · use q, List.mem_cons_self
        · use r, List.mem_cons_of_mem q h
    obtain ⟨q, hq, hcells, hsource⟩ := hmem
    obtain ⟨hline, hread⟩ := source_of_mem_scan hq
    rw [← hsource, ← hcells]
    constructor
    · apply (List.dropWhile_sublist (· != resultsHeading)).mem
      rw [hbody]
      apply List.mem_cons_of_mem l hline
    · apply hread

/-! ### The text that was read -/

/-- Reading a text and writing the sheet takes one carriage return from the end of every line
that ends with one, and changes nothing else; so it changes nothing at all exactly if no line
ends with one. -/
theorem toText_ofText (t : Text) :
  (ofText t).toText =
      ['\n'].intercalate
        ((t.splitOn '\n').map fun l => if l.getLast? = some '\r' then l.dropLast else l)
    ∧ ((ofText t).toText = t ↔ ∀ l ∈ t.splitOn '\n', l.getLast? ≠ some '\r')
  := by
  have htext : (ofText t).toText = ['\n'].intercalate ((t.splitOn '\n').map Text.dropReturn) := by
    rw [toText, toLines_ofText, finalNewline_ofText, ← Text.unlines_lines]
  have hdrop : (fun l : Text => if l.getLast? = some '\r' then l.dropLast else l)
      = Text.dropReturn := by
    funext l
    simp [Text.dropReturn]
  constructor
  · rw [htext, hdrop]
  · rw [htext, Text.intercalate_dropReturn_eq_self_iff]

/-! ### Legible sheets -/

/-- Puts lines in front of rows and the lines after them. -/
def pushLines (ls : List Text) (p : List SheetRow × List Text) : List SheetRow × List Text :=
  ls.foldr pushLine p

/-- Whether no line is a row, the section in front of the first being open or not. -/
def Passes (inside : Bool) : List Text → Prop
  | [] => True
  | l :: ls => (inside = true → SheetCells.ofLine? l = none) ∧ Passes (opens inside l) ls

/-- Whether each row stands in an open section, and no other line in one is a row. -/
def Placed (inside : Bool) : List SheetRow → List Text → Prop
  | [], rest => Passes inside rest
  | r :: rows, rest =>
    Passes inside r.leading ∧ r.leading.foldl opens inside = true ∧ Placed true rows rest

instance decidablePasses : (inside : Bool) → (ls : List Text) → Decidable (Passes inside ls)
  | _, [] => .isTrue trivial
  | inside, l :: ls =>
    have := decidablePasses (opens inside l) ls
    inferInstanceAs (Decidable ((inside = true → SheetCells.ofLine? l = none) ∧ _))

instance decidablePlaced :
    (inside : Bool) → (rows : List SheetRow) → (rest : List Text) → Decidable (Placed inside rows rest)
  | inside, [], rest => inferInstanceAs (Decidable (Passes inside rest))
  | inside, r :: rows, rest =>
    have := decidablePlaced true rows rest
    inferInstanceAs (Decidable (Passes inside r.leading ∧ r.leading.foldl opens inside = true ∧ _))

/-- The rows, the first one with the table head above it. -/
def rowsBelowHead (d : BaselineSheet) : List SheetRow := (pushLines d.tableHead (d.rows, [])).1

/-- A sheet that can be read back from its text. -/
structure Legible (d : BaselineSheet) : Prop where
  /-- There is a results heading. -/
  hasResults : d.hasResults = true
  /-- There is a row. -/
  rows_ne_nil : d.rows ≠ []
  /-- What stands above the first row is the table head. -/
  leading_head : ∀ r, d.rows.head? = some r → r.leading = []
  /-- The preamble ends at the first results heading. -/
  heading_notMem : resultsHeading ∉ d.preamble
  /-- The lines that are no rows are lines. -/
  isLine : ∀ l ∈ d.preamble ++ d.tableHead ++ d.rows.flatMap (·.leading) ++ d.trailer, Text.IsLine l
  /-- The lines that rows were read from are lines. -/
  isLine_source : ∀ r ∈ d.rows, Text.IsLine r.source
  /-- Cells hold no line feed. -/
  feed_notMem : ∀ r ∈ d.rows, ∀ t ∈ r.cells.toList, '\n' ∉ t
  /-- The rows stand in open sections, and nothing else in them is a row. -/
  placed : Placed true d.rowsBelowHead d.trailer
  /-- Each row has legible cells. -/
  legible_cells : ∀ r ∈ d.rows, r.cells.Legible
  /-- Without a line feed at the end the last line is not empty. -/
  ending : d.finalNewline = true ∨ d.toLines.getLast? ≠ some []

theorem pushLines_nil (ls rest : List Text) :
  pushLines ls ([], rest) = ([], ls ++ rest)
  := by
  induction ls with
  | nil => rfl
  | cons l ls ih =>
    rw [pushLines, List.foldr_cons, ← pushLines, ih]
    rfl

theorem pushLines_cons (ls : List Text) (r : SheetRow) (rows : List SheetRow) (rest : List Text) :
  pushLines ls (r :: rows, rest) = ({ r with leading := ls ++ r.leading } :: rows, rest)
  := by
  induction ls with
  | nil => rfl
  | cons l ls ih =>
    rw [pushLines, List.foldr_cons, ← pushLines, ih]
    rfl

/-! ### Nothing is misread -/

theorem rowAt?_eq_none {inside : Bool} {l : Text}
    (h : inside = true → SheetCells.ofLine? l = none) :
  rowAt? inside l = none
  := by
  unfold rowAt?
  split
  · rfl
  · rename_i hopen
    have hinside : inside = true := by
      simp only [Bool.or_eq_true, not_or] at hopen
      simpa using hopen.2
    rw [SheetRow.ofLine?, h hinside]
    rfl

/-- Lines that are no rows are put above what is found behind them. -/
theorem scan_append {inside : Bool} {ls : List Text} (h : Passes inside ls) (rest : List Text) :
  scan inside (ls ++ rest) = pushLines ls (scan (ls.foldl opens inside) rest)
  := by
  induction ls generalizing inside with
  | nil => rfl
  | cons l ls ih =>
    obtain ⟨hl, hls⟩ := h
    rw [List.cons_append, scan, rowAt?_eq_none hl]
    dsimp only
    rw [ih hls]
    rfl

theorem not_heading_of_ofLine? {l : Text} {c : SheetCells} (h : SheetCells.ofLine? l = some c) :
  Text.startsWith headingMark l = false
  := by
  have hhead := SheetCells.head?_of_ofLine? h
  rw [Bool.eq_false_iff]
  intro hmark
  obtain ⟨rest, rfl⟩ := Text.startsWith_iff.1 hmark
  simp [headingMark] at hhead

/-- A line that is a row is found as one in an open section, which it leaves open. -/
theorem scan_row {l : Text} {c : SheetCells} (h : SheetCells.ofLine? l = some c)
    (rest : List Text) :
  scan true (l :: rest) =
    ({ cells := c, source := l } :: (scan true rest).1, (scan true rest).2)
  := by
  have hmark := not_heading_of_ofLine? h
  have hrow : rowAt? true l = some { cells := c, source := l } := by
    simp [rowAt?, hmark, SheetRow.ofLine?, h]
  have hopens : opens true l = true := by simp [opens, hmark]
  rw [scan, hrow]
  dsimp only
  rw [hopens]

/-- Placed rows with legible cells are found again where they were. -/
theorem scan_bodyLines {inside : Bool} {rows : List SheetRow} {rest : List Text}
    (h : Placed inside rows rest) (hcells : ∀ r ∈ rows, r.cells.Legible) :
  scan inside (bodyLines rows rest) = (rows.map fun r => { r with source := r.line }, rest)
  := by
  induction rows generalizing inside with
  | nil =>
    have hscan := scan_append h []
    rw [List.append_nil] at hscan
    rw [show bodyLines [] rest = rest from rfl, hscan]
    show pushLines rest ([], []) = _
    rw [pushLines_nil, List.append_nil]
    rfl
  | cons r rows ih =>
    obtain ⟨hleading, hopen, hrows⟩ := h
    have hline := SheetRow.ofLine?_line (hcells r List.mem_cons_self)
    have hrest := ih hrows fun q hq => hcells q (List.mem_cons_of_mem r hq)
    rw [bodyLines_cons, scan_append hleading, hopen, scan_row hline, hrest, pushLines_cons]
    simp

/-! ### The text of a legible sheet -/

/-- The line of a row is a line if its cells hold no line feed and its source is one. -/
theorem isLine_line {r : SheetRow} (hcells : ∀ t ∈ r.cells.toList, '\n' ∉ t)
    (hsource : Text.IsLine r.source) :
  Text.IsLine r.line
  := by
  unfold SheetRow.line
  split
  · apply hsource
  · constructor
    · intro hmem
      rcases SheetCells.mem_line hmem with h | ⟨t, ht, hmem⟩
      · revert h
        decide
      · exact hcells t ht hmem
    · rw [SheetCells.getLast?_line]
      decide

variable {d : BaselineSheet}

/-- The lines of a sheet with rows are those of its preamble, the heading, and the body below. -/
theorem toLines_eq (h : d.Legible) :
  d.toLines = d.preamble ++ resultsHeading :: bodyLines d.rowsBelowHead d.trailer
  := by
  obtain ⟨r, rows, hrows⟩ := List.exists_cons_of_ne_nil h.rows_ne_nil
  have hleading : r.leading = [] := h.leading_head r (by rw [hrows]; rfl)
  have hline : ({ r with leading := d.tableHead } : SheetRow).line = r.line := rfl
  simp [toLines, rowsBelowHead, pushLines_cons, bodyLines, h.hasResults, hrows, hleading, hline]

theorem isLine_toLines (h : d.Legible) :
  ∀ l ∈ d.toLines, Text.IsLine l
  := by
  intro l hl
  simp only [toLines, h.hasResults, Bool.true_or, if_true, List.cons_append, List.mem_append,
    List.mem_cons, List.mem_flatMap, List.not_mem_nil, or_false] at hl
  have hother := h.isLine
  simp only [List.mem_append, List.mem_flatMap] at hother
  rcases hl with hl | rfl | (hl | ⟨r, hr, hl | rfl⟩) | hl
  · apply hother l (.inl (.inl (.inl hl)))
  · constructor
    · decide
    · decide
  · apply hother l (.inl (.inl (.inr hl)))
  · apply hother l (.inl (.inr ⟨r, hr, hl⟩))
  · apply isLine_line (h.feed_notMem r hr) (h.isLine_source r hr)
  · apply hother l (.inr hl)

/-- The lines of a legible sheet are read back from its text, and so is how the text ends. -/
theorem lines_toText (h : d.Legible) :
  Text.lines d.toText = d.toLines
    ∧ (d.toText.isEmpty || d.toText.getLast? == some '\n') = d.finalNewline
  := by
  have hne : d.toLines ≠ [] := by simp [toLines_eq h]
  unfold toText
  cases hfinal : d.finalNewline with
  | true =>
    constructor
    · apply Text.lines_unlines (isLine_toLines h)
    · simp [Text.getLast?_unlines hne]
  | false =>
    have hending : d.toLines.getLast? ≠ some [] := by simpa [hfinal] using h.ending
    obtain ⟨l, hlast⟩ := Option.isSome_iff_exists.1 (List.getLast?_isSome.2 hne)
    have hl : l ≠ [] := by
      rintro rfl
      exact hending hlast
    obtain ⟨htext, hfeed⟩ := Text.getLast?_dropLast_unlines (isLine_toLines h) hlast hl
    constructor
    · apply Text.lines_dropLast_unlines (isLine_toLines h) hlast hl
    · simp [htext, hfeed]

/-- A text whose lines hold the heading is read as what stands in front of it and its body. -/
theorem ofText_eq_ofBody {t : Text} {preamble body : List Text}
    (hlines : Text.lines t = preamble ++ resultsHeading :: body)
    (hpreamble : resultsHeading ∉ preamble) :
  ofText t = ofBody preamble (t.isEmpty || t.getLast? == some '\n') body
  := by
  have hskip : ∀ l ∈ preamble, (l != resultsHeading) = true := by
    intro l hl
    rw [bne_iff_ne]
    rintro rfl
    exact hpreamble hl
  unfold ofText
  dsimp only
  rw [hlines, List.takeWhile_append_of_pos hskip, List.dropWhile_append_of_pos hskip]
  simp

/-- A legible sheet is read back from its text; only the lines that rows were read from are now
the lines that were written for them. -/
theorem ofText_toText (h : d.Legible) :
  ofText d.toText = { d with rows := d.rows.map fun r => { r with source := r.line } }
  := by
  obtain ⟨hlines, hending⟩ := lines_toText h
  rw [toLines_eq h] at hlines
  rw [ofText_eq_ofBody hlines h.heading_notMem, hending]
  obtain ⟨r, rows, hrows⟩ := List.exists_cons_of_ne_nil h.rows_ne_nil
  have hleading : r.leading = [] := h.leading_head r (by rw [hrows]; rfl)
  have hbelow : d.rowsBelowHead = { r with leading := d.tableHead } :: rows := by
    simp [rowsBelowHead, hrows, pushLines_cons, hleading]
  have hcells : ∀ q ∈ d.rowsBelowHead, q.cells.Legible := by
    rw [hbelow, List.forall_mem_cons]
    have hall := h.legible_cells
    rw [hrows, List.forall_mem_cons] at hall
    apply hall
  rw [ofBody, scan_bodyLines h.placed hcells, hbelow]
  obtain ⟨preamble, tableHead, _, trailer, hasResults, finalNewline⟩ := d
  obtain ⟨cells, _, source⟩ := r
  obtain rfl : hasResults = true := h.hasResults
  obtain rfl := hrows
  obtain rfl := hleading
  rfl

/-- A sheet with an edited row, whose source is stale, a row whose source still holds, in a
section opened again below one with a line like a row, and no line feed at its end. -/
def reopened : BaselineSheet where
  preamble := ["# Snapshot".toList, []]
  rows :=
    [ { cells :=
          { scenario := ['a'], rps := ['1'], p99 := "1ms".toList, cpu := "2%".toList
            rss := "3KB".toList }
        source := "| `a` | 7 | 1ms | | 2% | 3KB | |".toList },
      { cells :=
          { scenario := ['b'], rps := ['4'], p99 := "5ms".toList, avgLatency := "n/a".toList
            cpu := "6%".toList, rss := "7KB".toList, notes := ['x'] }
        leading := ["## Notes".toList, "| `c` | 1 | 2 | 3 | 4% | 5KB |".toList, [],
          "## Results".toList]
        source := "| `b` |4|5ms|n/a|6%|7KB| x".toList } ]
  trailer := ["## End".toList, "| `d` | 1 | 2 | 3 | 4% | 5KB |".toList]
  finalNewline := false

/-- The sheet is read back, its edited row with the canonical line as its source. -/
theorem ofText_toText_reopened :
  reopened.Legible
    ∧ ofText reopened.toText
      = { reopened with rows := reopened.rows.map fun r => { r with source := r.line } }
  := by
  have hlegible : reopened.Legible :=
    { hasResults := rfl
      rows_ne_nil := by decide
      leading_head := by
        rintro r hr
        obtain rfl := Option.some.inj hr
        rfl
      heading_notMem := by decide
      isLine := by
        unfold Text.IsLine
        decide
      isLine_source := by
        unfold Text.IsLine
        decide
      feed_notMem := by decide
      placed := by decide
      legible_cells := by
        simp only [reopened, List.forall_mem_cons, List.not_mem_nil, false_implies, implies_true,
          and_true]
        constructor
        · constructor <;> decide
        · constructor <;> decide
      ending := by
        right
        decide }
  constructor
  · apply hlegible
  · apply ofText_toText hlegible

end BaselineSheet

end PerfGate
