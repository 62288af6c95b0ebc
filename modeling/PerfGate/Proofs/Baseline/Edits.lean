import Mathlib.Data.List.Induction
import PerfGate.Proofs.Baseline.RoundTrip

/-!
# Edits of baseline sheets

The text of a sheet is the lines of its rows, with fixed texts in front of each and behind the
last (`toText_eq_weave`).  Assigning to cells leaves these fixed texts alone, and the line of a row
that was read from a text is the line it was read from exactly for as long as the cells are the
ones that were read.  So an edit shows in the lines of the rows whose cells it has changed, and
nowhere else (`toText_editAll`).
-/

namespace PerfGate

/-! ### Cells by column -/

/-- The columns of a results table. -/
inductive Column where
  | scenario
  | rps
  | p99
  | avgLatency
  | cpu
  | rss
  | notes
deriving DecidableEq

namespace SheetCells

/-- The cell in a column. -/
def cell (c : SheetCells) : Column → Text
  | .scenario => c.scenario
  | .rps => c.rps
  | .p99 => c.p99
  | .avgLatency => c.avgLatency
  | .cpu => c.cpu
  | .rss => c.rss
  | .notes => c.notes

/-- The cells with another text in one column. -/
def assign (c : SheetCells) (t : Text) : Column → SheetCells
  | .scenario => { c with scenario := t }
  | .rps => { c with rps := t }
  | .p99 => { c with p99 := t }
  | .avgLatency => { c with avgLatency := t }
  | .cpu => { c with cpu := t }
  | .rss => { c with rss := t }
  | .notes => { c with notes := t }

theorem cell_assign (c : SheetCells) (t : Text) (column other : Column) :
  (c.assign t column).cell other = if column = other then t else c.cell other
  := by
  cases column <;> cases other <;> rfl

/-- Cells are the same if they are so in each column. -/
theorem eq_of_cell {c c' : SheetCells} (h : ∀ column, c.cell column = c'.cell column) :
  c = c'
  := by
  cases c
  cases c'
  rw [SheetCells.mk.injEq]
  exact ⟨h .scenario, h .rps, h .p99, h .avgLatency, h .cpu, h .rss, h .notes⟩

end SheetCells

/-! ### Edits -/

/-- An assignment to a cell of a sheet. -/
structure Edit where
  /-- The row, counted from zero. -/
  row : Nat
  /-- The column. -/
  column : Column
  /-- What the cell is to hold. -/
  value : Text

namespace BaselineSheet

/-- The sheet after an assignment. -/
def edit (d : BaselineSheet) (e : Edit) : BaselineSheet :=
  { d with
    rows := d.rows.modify e.row fun r => { r with cells := r.cells.assign e.value e.column } }

/-- The sheet after assignments, one after the other. -/
def editAll (d : BaselineSheet) (edits : List Edit) : BaselineSheet := edits.foldl edit d

/-- What was last assigned to a cell. -/
def lastValue? (edits : List Edit) (row : Nat) (column : Column) : Option Text :=
  ((edits.filter fun e => e.row = row ∧ e.column = column).getLast?).map (·.value)

theorem editAll_concat (d : BaselineSheet) (edits : List Edit) (e : Edit) :
  d.editAll (edits ++ [e]) = (d.editAll edits).edit e
  := by
  rw [editAll, editAll, List.foldl_append]
  rfl

theorem lastValue?_concat (edits : List Edit) (e : Edit) (row : Nat) (column : Column) :
  lastValue? (edits ++ [e]) row column =
    if e.row = row ∧ e.column = column then some e.value else lastValue? edits row column
  := by
  rw [lastValue?, List.filter_append]
  by_cases he : e.row = row ∧ e.column = column
  · simp [he]
  · rw [if_neg he, List.filter_cons_of_neg (by simpa using he), List.filter_nil, List.append_nil,
      lastValue?]

/-- What assignments make of a row: its cells hold what was last assigned to them, or what they
held. -/
structure Edited (edits : List Edit) (i : Nat) (r q : SheetRow) : Prop where
  /-- The lines above are kept. -/
  leading_eq : q.leading = r.leading
  /-- The line that it was read from is kept. -/
  source_eq : q.source = r.source
  /-- Each cell holds what was last assigned to it. -/
  cell_eq : ∀ column,
    q.cells.cell column = (lastValue? edits i column).getD (r.cells.cell column)

theorem exists_edited (d : BaselineSheet) (edits : List Edit) {i : Nat} {r : SheetRow}
    (hr : d.rows[i]? = some r) :
  ∃ q, (d.editAll edits).rows[i]? = some q ∧ Edited edits i r q
  := by
  induction edits using List.reverseRecOn with
  | nil => exact ⟨r, hr, rfl, rfl, fun _ => rfl⟩
  | append_singleton edits e ih =>
    obtain ⟨q, hq, hleading, hsource, hcell⟩ := ih
    rw [editAll_concat, edit, List.getElem?_modify, hq]
    refine ⟨_, rfl, ?_⟩
    dsimp only
    by_cases hrow : e.row = i
    · rw [if_pos hrow]
      refine ⟨hleading, hsource, ?_⟩
      intro column
      rw [SheetCells.cell_assign, lastValue?_concat, hcell]
      by_cases hcolumn : e.column = column
      · simp [hrow, hcolumn]
      · simp [hcolumn]
    · rw [if_neg hrow]
      refine ⟨hleading, hsource, ?_⟩
      intro column
      rw [lastValue?_concat, if_neg (fun h => hrow h.1)]
      apply hcell

/-- Assignments change the rows only, and none of these goes or comes. -/
theorem editAll_eq (d : BaselineSheet) (edits : List Edit) :
  ∃ rows, d.editAll edits = { d with rows } ∧ rows.length = d.rows.length
  := by
  induction edits using List.reverseRecOn with
  | nil => exact ⟨d.rows, rfl, rfl⟩
  | append_singleton edits e ih =>
    obtain ⟨rows, hd, hlength⟩ := ih
    rw [editAll_concat, hd]
    refine ⟨_, rfl, ?_⟩
    rw [List.length_modify, hlength]

/-! ### Rows in a frame of fixed texts -/

/-- Texts, each behind a fixed one, and a last one. -/
def weave (gaps lines : List Text) (ending : Text) : Text :=
  (List.zipWith (· ++ ·) gaps lines).flatten ++ ending

/-- The texts in front of the lines of the rows. -/
def gaps (d : BaselineSheet) : List Text :=
  match d.rows.map (·.leading) with
  | [] => []
  | above :: rest =>
    Text.unlines (d.preamble ++ resultsHeading :: d.tableHead ++ above) ::
      rest.map fun above => '\n' :: Text.unlines above

/-- The text behind the line of the last row, or the whole text if there is no row. -/
def ending (d : BaselineSheet) : Text :=
  match d.rows with
  | [] => d.toText
  | _ :: _ =>
    let t := '\n' :: Text.unlines d.trailer
    if d.finalNewline then t else t.dropLast

theorem length_gaps (d : BaselineSheet) :
  d.gaps.length = d.rows.length
  := by
  unfold gaps
  cases d.rows with
  | nil => rfl
  | cons r rows => simp

theorem weave_cons (gap : Text) (gaps : List Text) (line : Text) (lines : List Text)
    (ending : Text) :
  weave (gap :: gaps) (line :: lines) ending = gap ++ (line ++ weave gaps lines ending)
  := by
  simp [weave]

theorem dropLast_weave (gaps lines : List Text) {ending : Text} (h : ending ≠ []) :
  (weave gaps lines ending).dropLast = weave gaps lines ending.dropLast
  := List.dropLast_append_of_ne_nil h

theorem unlines_append_cons (above : List Text) (l : Text) (below : List Text) :
  Text.unlines (above ++ l :: below) = Text.unlines above ++ (l ++ '\n' :: Text.unlines below)
  := by
  simp [Text.unlines]

/-- The lines behind a row's line are woven from the lines of the rows below it. -/
theorem unlines_bodyLines (rows : List SheetRow) (rest : List Text) :
  '\n' :: Text.unlines (bodyLines rows rest) =
    weave (rows.map fun r => '\n' :: Text.unlines r.leading) (rows.map SheetRow.line)
      ('\n' :: Text.unlines rest)
  := by
  induction rows with
  | nil => rfl
  | cons r rows ih =>
    rw [bodyLines_cons, unlines_append_cons, ih, List.map_cons, List.map_cons, weave_cons]
    rfl

/-- The text of a sheet is the lines of its rows, with fixed texts in front of each and behind the
last. -/
theorem toText_eq_weave (d : BaselineSheet) :
  d.toText = weave d.gaps (d.rows.map SheetRow.line) d.ending
  := by
  cases hrows : d.rows with
  | nil => simp [weave, gaps, ending, hrows]
  | cons r rows =>
    have hlines : d.toLines =
        (d.preamble ++ resultsHeading :: d.tableHead ++ r.leading) ++
          r.line :: bodyLines rows d.trailer := by
      simp [toLines, bodyLines, hrows]
    have htext : Text.unlines d.toLines =
        weave d.gaps ((r :: rows).map SheetRow.line) ('\n' :: Text.unlines d.trailer) := by
      rw [hlines, unlines_append_cons, unlines_bodyLines, gaps, hrows, List.map_cons,
        List.map_cons, weave_cons, List.map_map]
      rfl
    rw [toText, htext, ending, hrows]
    dsimp only
    split
    · rfl
    · apply dropLast_weave _ _ (List.cons_ne_nil _ _)

/-! ### What an edit shows -/

theorem getElem?_editAll_eq_none (d : BaselineSheet) (edits : List Edit) {i : Nat}
    (hr : d.rows[i]? = none) :
  (d.editAll edits).rows[i]? = none
  := by
  obtain ⟨rows, hd, hlength⟩ := d.editAll_eq edits
  rw [List.getElem?_eq_none_iff] at hr ⊢
  rw [hd]
  apply hlength.trans_le hr

/-- Assignments leave the texts between the lines of the rows alone. -/
theorem gaps_editAll (d : BaselineSheet) (edits : List Edit) :
  (d.editAll edits).gaps = d.gaps
  := by
  have hleading : (d.editAll edits).rows.map (·.leading) = d.rows.map (·.leading) := by
    apply List.ext_getElem?
    intro i
    rw [List.getElem?_map, List.getElem?_map]
    cases hr : d.rows[i]? with
    | none => rw [d.getElem?_editAll_eq_none edits hr]
    | some r =>
      obtain ⟨q, hq, hedited⟩ := d.exists_edited edits hr
      rw [hq, Option.map_some, Option.map_some, hedited.leading_eq]
  obtain ⟨rows, hd, -⟩ := d.editAll_eq edits
  rw [gaps, hleading, hd, gaps]

theorem ending_editAll (d : BaselineSheet) (edits : List Edit) :
  (d.editAll edits).ending = d.ending
  := by
  obtain ⟨rows, hd, hlength⟩ := d.editAll_eq edits
  rw [hd, ending, ending]
  cases hrows : d.rows with
  | nil =>
    obtain rfl : rows = [] := List.eq_nil_of_length_eq_zero (by rw [hlength, hrows]; rfl)
    rw [← hrows]
  | cons r rest =>
    cases rows with
    | nil => rw [hrows] at hlength; cases hlength
    | cons q rows => rfl

/-- A row that was read is written as the line it was read from for as long as its cells are the
ones in that line. -/
theorem line_of_source {r q : SheetRow} (hread : SheetCells.ofLine? r.source = some r.cells)
    (hsource : q.source = r.source) :
  q.line = if q.cells = r.cells then r.source else q.cells.line
  := by
  rw [SheetRow.line, hsource, hread]
  simp [eq_comm]

/-- The lines of edited rows: those that were read, unless the cells are others now. -/
theorem map_line_editAll (t : Text) (edits : List Edit) :
  ((ofText t).editAll edits).rows.map SheetRow.line =
    List.zipWith (fun r q => if q.cells = r.cells then r.source else q.cells.line)
      (ofText t).rows ((ofText t).editAll edits).rows
  := by
  apply List.ext_getElem?
  intro i
  rw [List.getElem?_map, List.getElem?_zipWith]
  cases hr : (ofText t).rows[i]? with
  | none =>
    rw [getElem?_editAll_eq_none _ edits hr]
    rfl
  | some r =>
    obtain ⟨q, hq, hedited⟩ := exists_edited _ edits hr
    obtain ⟨-, hread⟩ := source_of_mem_rows (List.mem_of_getElem? hr)
    rw [hq, Option.map_some, line_of_source hread hedited.source_eq]

/-- Cells hold what they held if what was last assigned to each is that. -/
theorem Edited.cells_eq {edits : List Edit} {i : Nat} {r q : SheetRow} (h : Edited edits i r q)
    (hlast : ∀ column v, lastValue? edits i column = some v → v = r.cells.cell column) :
  q.cells = r.cells
  := by
  apply SheetCells.eq_of_cell
  intro column
  rw [h.cell_eq]
  cases hv : lastValue? edits i column with
  | none => rfl
  | some v => apply hlast column v hv

/-- If what was last assigned to each cell is what it held, nothing has changed. -/
theorem editAll_eq_self {d : BaselineSheet} {edits : List Edit}
    (hlast : ∀ i r column v, d.rows[i]? = some r → lastValue? edits i column = some v →
      v = r.cells.cell column) :
  d.editAll edits = d
  := by
  have hrows : (d.editAll edits).rows = d.rows := by
    apply List.ext_getElem?
    intro i
    cases hr : d.rows[i]? with
    | none => apply d.getElem?_editAll_eq_none edits hr
    | some r =>
      obtain ⟨q, hq, hedited⟩ := d.exists_edited edits hr
      have hcells := hedited.cells_eq fun column v => hlast i r column v hr
      obtain ⟨cells, leading, source⟩ := q
      obtain rfl := hcells
      obtain rfl := hedited.leading_eq
      obtain rfl := hedited.source_eq
      apply hq
  obtain ⟨rows, hd, -⟩ := d.editAll_eq edits
  obtain rfl : rows = d.rows := by rw [← hrows, hd]
  apply hd

/-- Assignments to cells of a sheet that was read change its text in the lines of the rows whose
cells have come to differ from the ones that were read.  Each of these lines is canonical now, and
the text is the same in all other places.  A cell holds what was last assigned to it; so if that is
what was read, it is as if nothing had been assigned, whatever was in between. -/
theorem toText_editAll (t : Text) (edits : List Edit) :
  let d := ofText t
  let e := d.editAll edits
  d.gaps.length = d.rows.length ∧ e.rows.length = d.rows.length
    ∧ d.toText = weave d.gaps (d.rows.map (·.source)) d.ending
    ∧ e.toText = weave d.gaps
        (List.zipWith (fun r q => if q.cells = r.cells then r.source else q.cells.line)
          d.rows e.rows)
        d.ending
    ∧ (∀ i r, d.rows[i]? = some r → ∃ q, e.rows[i]? = some q
        ∧ (∀ column, q.cells.cell column = (lastValue? edits i column).getD (r.cells.cell column))
        ∧ ((∀ column v, lastValue? edits i column = some v → v = r.cells.cell column) →
            q.cells = r.cells))
    ∧ ((∀ i r column v, d.rows[i]? = some r → lastValue? edits i column = some v →
          v = r.cells.cell column) →
        e.toText = d.toText)
  := by
  intro d e
  have htext : d.toText = weave d.gaps (d.rows.map (·.source)) d.ending := by
    rw [toText_eq_weave]
    congr 1
    apply List.map_congr_left
    intro r hr
    rw [line_of_source (source_of_mem_rows hr).2 rfl, if_pos rfl]
  refine ⟨d.length_gaps, ?_, htext, ?_, ?_, ?_⟩
  · obtain ⟨rows, hd, hlength⟩ := d.editAll_eq edits
    rw [show e = _ from hd, hlength]
  · rw [toText_eq_weave, d.gaps_editAll, d.ending_editAll, map_line_editAll]
  · intro i r hr
    obtain ⟨q, hq, hedited⟩ := d.exists_edited edits hr
    use q, hq, hedited.cell_eq, hedited.cells_eq
  · intro hlast
    rw [show e = d from editAll_eq_self hlast]

/-- Two rows in forms of their own, with a line between them, and no line feed at the end. -/
def terse : Text := "## Results\n| `a` |1|2ms||3%|4KB| x\n-\n| `b` |5|6ms| |7%|8KB".toList

/-- A cell of the first row is set and set back, one of the second row is set in between; in the
end that one is set back, too. -/
theorem toText_editAll_terse :
  ((ofText terse).editAll
        [⟨0, .rps, ['9']⟩, ⟨1, .notes, ['y']⟩, ⟨0, .rps, ['1']⟩]).toText =
      "## Results\n| `a` |1|2ms||3%|4KB| x\n-\n| `b` | 5 | 6ms |  | 7% | 8KB | y |".toList
    ∧ ((ofText terse).editAll
        [⟨0, .rps, ['9']⟩, ⟨1, .notes, ['y']⟩, ⟨0, .rps, ['1']⟩, ⟨1, .notes, []⟩]).toText =
      (ofText terse).toText
  := by
  obtain ⟨-, -, -, hedited, -⟩ :=
    toText_editAll terse [⟨0, .rps, ['9']⟩, ⟨1, .notes, ['y']⟩, ⟨0, .rps, ['1']⟩]
  obtain ⟨-, -, -, -, -, hreverted⟩ := toText_editAll terse
    [⟨0, .rps, ['9']⟩, ⟨1, .notes, ['y']⟩, ⟨0, .rps, ['1']⟩, ⟨1, .notes, []⟩]
  constructor
  · rw [hedited]
    decide +kernel
  · apply hreverted
    intro i r column v hr hv
    rcases i with _ | _ | i
    · obtain rfl := Option.some.inj hr
      cases column <;> cases hv
      rfl
    · obtain rfl := Option.some.inj hr
      cases column <;> cases hv
      rfl
    · cases hr

end BaselineSheet

end PerfGate
