import Mathlib.Data.List.Find
import Mathlib.Data.List.Induction
import PerfGate.Baseline.Entry
import PerfGate.Proofs.Baseline.RoundTrip
import PerfGate.Proofs.History

/-!
# Which rows a baseline is read from

A baseline is read from the rows in the results sections of a text, its candidates.  They can be
told from the lines alone (`BaselineSheet.rowsBelow`): a line counts if the last heading above it
is that of a results section and it is recognised as a row.  What the candidates of the wanted
scenarios say is then the outcome (`Baseline.Tells`): the first one that has no entry is an error,
else the first scenario without a candidate is one, else each scenario has the entry of its last
candidate.  `ofText_tells` puts the two together.

The rule of the outcome is stated for any reading of the cells.
-/

namespace PerfGate

/-! ### Candidates -/

namespace BaselineSheet

/-- The rows in results sections among lines that stand below a heading, or below none. -/
def rowsBelow (heading : Option Text) : List Text → List SheetCells
  | [] => []
  | l :: ls =>
    if Text.startsWith headingMark l then rowsBelow (some l) ls
    else
      (if heading = some resultsHeading then (SheetCells.ofLine? l).toList else []) ++
        rowsBelow heading ls

/-- The rows in the results sections of a text. -/
def candidates (t : Text) : List SheetCells := rowsBelow none (Text.lines t)

/-- The heading that lines stand below if a line is put above them. -/
def under (heading : Option Text) (l : Text) : Option Text :=
  if Text.startsWith headingMark l then some l else heading

theorem rowsBelow_append (heading : Option Text) (ls ls' : List Text) :
  rowsBelow heading (ls ++ ls') = rowsBelow heading ls ++ rowsBelow (ls.foldl under heading) ls'
  := by
  induction ls generalizing heading with
  | nil => rfl
  | cons l ls ih =>
    rw [List.cons_append, rowsBelow, rowsBelow, List.foldl_cons, under]
    split
    · apply ih
    · rw [ih, List.append_assoc]

theorem rowsBelow_eq_nil {heading : Option Text} (h : heading ≠ some resultsHeading)
    {ls : List Text} (hls : resultsHeading ∉ ls) :
  rowsBelow heading ls = []
  := by
  induction ls generalizing heading with
  | nil => rfl
  | cons l ls ih =>
    obtain ⟨hl, hls⟩ := not_or.1 (mt List.mem_cons.2 hls)
    rw [rowsBelow]
    split
    · apply ih _ hls
      simpa using Ne.symm hl
    · apply ih h hls

/-- The candidates are the ones below the first results heading. -/
theorem rowsBelow_preamble {preamble : List Text} (hpreamble : resultsHeading ∉ preamble)
    (body : List Text) :
  rowsBelow none (preamble ++ resultsHeading :: body) = rowsBelow (some resultsHeading) body
  := by
  have hmark : Text.startsWith headingMark resultsHeading = true := by decide
  rw [rowsBelow_append, rowsBelow_eq_nil (by simp) hpreamble, List.nil_append, rowsBelow,
    if_pos hmark]

theorem map_cells_pushLine (l : Text) (p : List SheetRow × List Text) :
  (pushLine l p).1.map (·.cells) = p.1.map (·.cells)
  := by
  obtain ⟨rows, rest⟩ := p
  cases rows with
  | nil => rfl
  | cons r rows => rfl

/-- The rows that are found have the cells of the candidates. -/
theorem map_cells_scan {inside : Bool} {heading : Option Text}
    (h : inside = true ↔ heading = some resultsHeading) (ls : List Text) :
  (scan inside ls).1.map (·.cells) = rowsBelow heading ls
  := by
  induction ls generalizing inside heading with
  | nil => rfl
  | cons l ls ih =>
    rw [scan, rowsBelow]
    by_cases hmark : Text.startsWith headingMark l = true
    · have hrow : rowAt? inside l = none := by simp [rowAt?, hmark]
      have hopens : opens inside l = true ↔ some l = some resultsHeading := by
        simp [opens, hmark]
      rw [hrow, if_pos hmark]
      dsimp only
      rw [map_cells_pushLine, ih hopens]
    · have hopens : opens inside l = inside := by simp [opens, hmark]
      rw [hopens, if_neg hmark]
      by_cases hheading : heading = some resultsHeading
      · have hrow : rowAt? inside l = SheetRow.ofLine? l := by simp [rowAt?, hmark, h.2 hheading]
        rw [hrow, if_pos hheading, ← ih h, SheetRow.ofLine?]
        cases SheetCells.ofLine? l with
        | none => apply map_cells_pushLine
        | some c => rfl
      · have hinside : inside = false := by simpa using mt h.1 hheading
        have hrow : rowAt? inside l = none := by simp [rowAt?, hinside]
        rw [hrow, if_neg hheading, ← ih h]
        apply map_cells_pushLine

theorem map_cells_ofBody (preamble : List Text) (finalNewline : Bool) (body : List Text) :
  (ofBody preamble finalNewline body).rows.map (·.cells) = rowsBelow (some resultsHeading) body
  := by
  have hopen : true = true ↔ some resultsHeading = some resultsHeading := by simp
  rw [← map_cells_scan hopen, ofBody]
  split
  · rename_i h
    rw [h]
  · rename_i h
    rw [h]
    rfl

/-- The rows of the sheet that a text is are its candidates. -/
theorem map_cells_ofText (t : Text) :
  (ofText t).rows.map (·.cells) = candidates t
  := by
  by_cases hmem : resultsHeading ∈ Text.lines t
  · obtain ⟨preamble, body, hlines, hpreamble⟩ := List.eq_append_cons_of_mem hmem
    rw [ofText_eq_ofBody hlines hpreamble, map_cells_ofBody, candidates, hlines,
      rowsBelow_preamble hpreamble]
  · have hdrop : (Text.lines t).dropWhile (· != resultsHeading) = [] := by
      apply List.dropWhile_eq_nil_iff.2
      intro l hl
      rw [bne_iff_ne]
      rintro rfl
      exact hmem hl
    rw [candidates, rowsBelow_eq_nil (by simp) hmem, ofText, hdrop]
    rfl

/-- A candidate has the cells of one of the lines. -/
theorem exists_line_of_mem_candidates {t : Text} {c : SheetCells} (h : c ∈ candidates t) :
  ∃ l ∈ Text.lines t, SheetCells.ofLine? l = some c
  := by
  rw [← map_cells_ofText] at h
  obtain ⟨r, hr, rfl⟩ := List.mem_map.1 h
  use r.source
  apply source_of_mem_rows hr

end BaselineSheet

/-! ### What rows tell -/

namespace Baseline

variable {α : Type} (figures? : SheetCells → Option (BaselineFigures α))

/-- Enters the entry of a row, if its scenario is wanted. -/
def enterWith (wanted : List ScenarioName) (b : Baseline α) (c : SheetCells) :
    Except BaselineError (Baseline α) :=
  if !wanted.contains c.scenario then .ok b
  else
    match figures? c with
    | some e => .ok (Table.set c.scenario e b)
    | none => .error (.rowMalformed c.scenario c.rps c.p99 c.cpu c.rss)

/-- The entries of rows for the wanted scenarios. -/
def gather (rows : List SheetCells) (wanted : List ScenarioName) :
    Except BaselineError (Baseline α) := do
  let b ← rows.foldlM (enterWith figures? wanted) []
  requireAll wanted b
  pure b

/-- The first row of a wanted scenario that has no entry. -/
def malformed? (rows : List SheetCells) (wanted : List ScenarioName) : Option SheetCells :=
  rows.find? fun c => wanted.contains c.scenario && (figures? c).isNone

/-- The last row of a scenario. -/
def lastRow? (rows : List SheetCells) (s : ScenarioName) : Option SheetCells :=
  (rows.filter fun c => c.scenario == s).getLast?

/-- The first of the wanted scenarios that no row is for. -/
def rowless? (rows : List SheetCells) (wanted : List ScenarioName) : Option ScenarioName :=
  wanted.find? fun s => (lastRow? rows s).isNone

/-- What rows tell of the wanted scenarios, as the outcome of reading them. -/
inductive Tells (rows : List SheetCells) (wanted : List ScenarioName) :
    Except BaselineError (Baseline α) → Prop where
  /-- The first row of a wanted scenario that has no entry is an error. -/
  | malformed {c : SheetCells} (hmalformed : malformed? figures? rows wanted = some c) :
    Tells rows wanted (.error (.rowMalformed c.scenario c.rps c.p99 c.cpu c.rss))
  /-- Else the first wanted scenario that no row is for is an error. -/
  | missing {s : ScenarioName} (hmalformed : malformed? figures? rows wanted = none)
    (hrowless : rowless? rows wanted = some s) :
    Tells rows wanted (.error (.scenarioMissing s))
  /-- Else there is a baseline of the wanted scenarios, each with the entry of its last row. -/
  | entries {b : Baseline α} (hmalformed : malformed? figures? rows wanted = none)
    (hrowless : rowless? rows wanted = none) (has_iff : ∀ s, Table.has s b = true ↔ s ∈ wanted)
    (get?_eq : ∀ s ∈ wanted, ∃ c, lastRow? rows s = some c ∧ Table.get? s b = figures? c) :
    Tells rows wanted (.ok b)

variable {figures?} {wanted : List ScenarioName}

theorem lastRow?_concat (rows : List SheetCells) (c : SheetCells) (s : ScenarioName) :
  lastRow? (rows ++ [c]) s = if s = c.scenario then some c else lastRow? rows s
  := by
  rw [lastRow?, List.filter_append, lastRow?]
  by_cases hs : s = c.scenario
  · rw [if_pos hs, List.filter_cons_of_pos (by simpa using hs.symm)]
    simp
  · rw [if_neg hs, List.filter_cons_of_neg (by simpa using Ne.symm hs)]
    simp

theorem enterWith_of_notMem {c : SheetCells} (h : c.scenario ∉ wanted) (b : Baseline α) :
  enterWith figures? wanted b c = .ok b
  := by
  simp [enterWith, h]

theorem enterWith_of_mem {c : SheetCells} (h : c.scenario ∈ wanted) (b : Baseline α) :
  enterWith figures? wanted b c =
    match figures? c with
    | some e => .ok (Table.set c.scenario e b)
    | none => .error (.rowMalformed c.scenario c.rps c.p99 c.cpu c.rss)
  := by
  simp [enterWith, h]

/-- What rows leave behind: the error of the first one that is wanted and has no entry, or else
the entries of the last rows of the wanted scenarios. -/
theorem foldlM_enterWith (rows : List SheetCells) :
  match malformed? figures? rows wanted with
  | some c => rows.foldlM (enterWith figures? wanted) [] =
      .error (.rowMalformed c.scenario c.rps c.p99 c.cpu c.rss)
  | none => ∃ b, rows.foldlM (enterWith figures? wanted) [] = .ok b
      ∧ ∀ s, Table.get? s b = if s ∈ wanted then (lastRow? rows s).bind figures? else none
  := by
  induction rows using List.reverseRecOn with
  | nil =>
    use [], rfl
    intro s
    simp [lastRow?]
  | append_singleton rows c ih =>
    rw [List.foldlM_append, malformed?, List.find?_append, ← malformed?]
    cases hmalformed : malformed? figures? rows wanted with
    | some d =>
      rw [hmalformed] at ih
      dsimp only [Option.some_or] at ih ⊢
      rw [ih]
      rfl
    | none =>
      rw [hmalformed] at ih
      obtain ⟨b, hb, hget⟩ := ih
      have hstep : rows.foldlM (enterWith figures? wanted) [] >>=
          (fun b => [c].foldlM (enterWith figures? wanted) b) = enterWith figures? wanted b c := by
        rw [hb]
        show [c].foldlM (enterWith figures? wanted) b = _
        rw [List.foldlM_cons]
        apply bind_pure
      rw [hstep, Option.none_or, List.find?_singleton]
      by_cases hwanted : c.scenario ∈ wanted
      · rw [enterWith_of_mem hwanted]
        cases hentry : figures? c with
        | none => simp [hwanted]
        | some e =>
          simp only [Option.isNone_some, Bool.and_false, Bool.false_eq_true, if_false]
          use Table.set c.scenario e b, rfl
          intro s
          rw [Table.get?_set, lastRow?_concat]
          by_cases hs : s = c.scenario
          · simp [hs, hwanted, hentry]
          · simp [hs, hget]
      · rw [enterWith_of_notMem hwanted]
        simp only [List.contains_eq_mem, hwanted, decide_false, Bool.false_and,
          Bool.false_eq_true, if_false]
        use b, rfl
        intro s
        rw [lastRow?_concat, hget]
        by_cases hs : s = c.scenario
        · simp [hs, hwanted]
        · simp [hs]

theorem mem_of_lastRow? {rows : List SheetCells} {s : ScenarioName} {c : SheetCells}
    (h : lastRow? rows s = some c) :
  c ∈ rows ∧ c.scenario = s
  := by
  obtain ⟨hmem, hname⟩ := List.mem_filter.1 (List.mem_of_getLast? h)
  use hmem, by simpa using hname

/-- A scenario has an entry if it is wanted and has a row, since no wanted row is malformed. -/
theorem has_eq {rows : List SheetCells} {b : Baseline α}
    (hmalformed : malformed? figures? rows wanted = none)
    (hget : ∀ s, Table.get? s b = if s ∈ wanted then (lastRow? rows s).bind figures? else none)
    (s : ScenarioName) :
  Table.has s b = (decide (s ∈ wanted) && (lastRow? rows s).isSome)
  := by
  rw [Table.has, hget]
  by_cases hs : s ∈ wanted
  · cases hlast : lastRow? rows s with
    | none => simp
    | some c =>
      obtain ⟨hc, rfl⟩ := mem_of_lastRow? hlast
      have hentry := List.find?_eq_none.1 hmalformed c hc
      simpa [hs, Option.isSome_iff_ne_none] using hentry
  · simp [hs]

/-- The entries that are gathered from rows are what the rows tell. -/
theorem tells_gather (rows : List SheetCells) (wanted : List ScenarioName) :
  Tells figures? rows wanted (gather figures? rows wanted)
  := by
  have hrows := @foldlM_enterWith _ figures? wanted rows
  unfold gather
  cases hmalformed : malformed? figures? rows wanted with
  | some c =>
    rw [hmalformed] at hrows
    rw [hrows]
    apply Tells.malformed hmalformed
  | none =>
    rw [hmalformed] at hrows
    obtain ⟨b, hb, hget⟩ := hrows
    have hhas := has_eq hmalformed hget
    have hlacking : firstLacking? b wanted = rowless? rows wanted := by
      apply List.find?_congr
      intro s hs
      rw [hhas]
      simp [hs]
    have hrequire := requireAll_eq wanted b
    rw [hlacking] at hrequire
    rw [hb]
    show Tells figures? rows wanted (requireAll wanted b >>= fun _ => pure b)
    rw [hrequire]
    cases hrowless : rowless? rows wanted with
    | some s => apply Tells.missing hmalformed hrowless
    | none =>
      have hlast : ∀ s ∈ wanted, (lastRow? rows s).isSome = true := by
        intro s hs
        simpa [Option.isSome_iff_ne_none] using List.find?_eq_none.1 hrowless s hs
      apply Tells.entries hmalformed hrowless
      · intro s
        rw [hhas, Bool.and_eq_true, decide_eq_true_iff]
        use And.left, fun hs => ⟨hs, hlast s hs⟩
      · intro s hs
        obtain ⟨c, hc⟩ := Option.isSome_iff_exists.1 (hlast s hs)
        use c, hc
        rw [hget, if_pos hs, hc]
        rfl

/-- Rows without a malformed one, and with one for each wanted scenario, tell a baseline. -/
theorem Tells.exists_ok {rows : List SheetCells} {outcome : Except BaselineError (Baseline α)}
    (h : Tells figures? rows wanted outcome) (hmalformed : malformed? figures? rows wanted = none)
    (hrowless : rowless? rows wanted = none) :
  ∃ b, outcome = .ok b ∧ (∀ s, Table.has s b = true ↔ s ∈ wanted)
    ∧ ∀ s ∈ wanted, ∃ c, lastRow? rows s = some c ∧ Table.get? s b = figures? c
  := by
  cases h with
  | malformed hc => simp [hc] at hmalformed
  | missing _ hs => simp [hs] at hrowless
  | entries _ _ has_iff get?_eq => exact ⟨_, rfl, has_iff, get?_eq⟩

/-- The first malformed row is the error that rows tell. -/
theorem Tells.eq_error {rows : List SheetCells} {outcome : Except BaselineError (Baseline α)}
    (h : Tells figures? rows wanted outcome) {c : SheetCells}
    (hmalformed : malformed? figures? rows wanted = some c) :
  outcome = .error (.rowMalformed c.scenario c.rps c.p99 c.cpu c.rss)
  := by
  cases h with
  | malformed hc =>
    obtain rfl := Option.some.inj (hmalformed.symm.trans hc)
    rfl
  | missing hc _ => simp [hc] at hmalformed
  | entries hc _ _ _ => simp [hc] at hmalformed

/-- The rows of the wanted scenarios. -/
def wantedRows (rows : List SheetCells) (wanted : List ScenarioName) : List SheetCells :=
  rows.filter fun c => wanted.contains c.scenario

/-- Rows of scenarios that are not wanted do not count. -/
theorem gather_wantedRows (rows : List SheetCells) (wanted : List ScenarioName) :
  gather figures? (wantedRows rows wanted) wanted = gather figures? rows wanted
  := by
  have hfold : ∀ b, (wantedRows rows wanted).foldlM (enterWith figures? wanted) b =
      rows.foldlM (enterWith figures? wanted) b := by
    induction rows with
    | nil =>
      intro b
      rfl
    | cons c rows ih =>
      intro b
      rw [wantedRows, List.foldlM_cons]
      by_cases hc : c.scenario ∈ wanted
      · rw [List.filter_cons_of_pos (by simpa using hc), List.foldlM_cons]
        simp only [← ih]
        rfl
      · rw [List.filter_cons_of_neg (by simpa using hc), enterWith_of_notMem hc]
        apply ih
  rw [gather, hfold, gather]

/-! ### Texts -/

/-- A baseline is gathered from the candidates of its text. -/
theorem ofText_eq_gather (t : Text) (wanted : List ScenarioName) :
  ofText t wanted = gather SheetCells.entry? (BaselineSheet.candidates t) wanted
  := by
  have henter : enter wanted = fun b r => enterWith SheetCells.entry? wanted b r.cells := by
    funext b r
    rw [enter, enterWith]
    split
    · rfl
    · cases r.cells.entry? <;> rfl
  rw [gather, ← BaselineSheet.map_cells_ofText, List.foldlM_map, ← henter]
  rfl

open BaselineSheet in
/-- A line that is put into a text does not change the rows that count, unless it is a heading or
is recognised, in a results section, as a row of a wanted scenario. -/
theorem wantedRows_rowsBelow_insert {ls ls' : List Text} {l : Text}
    (hmark : Text.startsWith headingMark l = false)
    (hrow : ls.foldl under none = some resultsHeading →
      ∀ c, SheetCells.ofLine? l = some c → c.scenario ∉ wanted) :
  wantedRows (rowsBelow none (ls ++ l :: ls')) wanted =
    wantedRows (rowsBelow none (ls ++ ls')) wanted
  := by
  rw [rowsBelow_append, rowsBelow_append, rowsBelow, if_neg (by simpa using hmark), wantedRows,
    wantedRows, List.filter_append, List.filter_append, List.filter_append]
  congr 1
  have hnone : (if ls.foldl under none = some resultsHeading then (SheetCells.ofLine? l).toList
      else []).filter (fun c => wanted.contains c.scenario) = [] := by
    split
    · rename_i hheading
      rw [List.filter_eq_nil_iff]
      intro c hc
      simpa using hrow hheading c (Option.mem_toList.1 hc)
    · rfl
  rw [hnone, List.nil_append]

open BaselineSheet in
/-- The baseline of a text is what its candidates tell, and its errors are errors of the setup.
It is kept by every change of the text that keeps the candidates of the wanted scenarios; such a
change is any line outside the results sections, or not recognised as a row, or a row of another
scenario, as long as it is no heading itself. -/
theorem ofText_tells (t : Text) (wanted : List ScenarioName) :
  Tells SheetCells.entry? (candidates t) wanted (ofText t wanted)
    ∧ (∀ e, ofText t wanted = .error e → (RunError.baseline e).kind = .setup)
    ∧ (∀ t', wantedRows (candidates t') wanted = wantedRows (candidates t) wanted →
      ofText t' wanted = ofText t wanted)
    ∧ (∀ t' ls l ls', Text.lines t = ls ++ ls' → Text.lines t' = ls ++ l :: ls' →
      Text.startsWith headingMark l = false →
      (ls.foldl under none = some resultsHeading →
        ∀ c, SheetCells.ofLine? l = some c → c.scenario ∉ wanted) →
      ofText t' wanted = ofText t wanted)
  := by
  have hcongr : ∀ t', wantedRows (candidates t') wanted = wantedRows (candidates t) wanted →
      ofText t' wanted = ofText t wanted := by
    intro t' h
    rw [ofText_eq_gather, ofText_eq_gather, ← gather_wantedRows, h, gather_wantedRows]
  refine ⟨?_, fun e _ => rfl, hcongr, ?_⟩
  · rw [ofText_eq_gather]
    apply tells_gather
  · intro t' ls l ls' hlines hlines' hmark hrow
    apply hcongr
    rw [candidates, candidates, hlines, hlines']
    apply wantedRows_rowsBelow_insert hmark hrow

/-- A text with rows of a scenario above, in and between two results sections, and a malformed row
of another one. -/
def annals : Text := Text.unlines
  ["| `a` | 9 | 9ms | n/a | 9% | 9KB | draft |".toList,
    "## Results".toList,
    "| `a` | 1 | 1ms | n/a | 1% | 1KB | first |".toList,
    "| `b` | ? | 1ms | n/a | 1% | 1KB | malformed |".toList,
    "## History".toList,
    "| `a` | ? | 1ms | n/a | 1% | 1KB | old |".toList,
    "## Results".toList,
    "| `a` | 2 | 2ms | n/a | 2% | 2KB | last |".toList]

/-- The last row in a results section counts, and with the other scenario its malformed row. -/
theorem ofText_tells_annals :
  (∃ (b : Baseline Binary64) (c : SheetCells), ofText annals [['a']] = .ok b
      ∧ Table.get? ['a'] b = c.entry? ∧ c.notes = "last".toList)
    ∧ ∃ c : SheetCells, c.notes = "malformed".toList
      ∧ ofText annals [['a'], ['b']] = .error (.rowMalformed ['b'] c.rps c.p99 c.cpu c.rss)
  := by
  constructor
  · have hmalformed : malformed? SheetCells.entry? (BaselineSheet.candidates annals) [['a']] = none
      := by decide +kernel
    have hrowless : rowless? (BaselineSheet.candidates annals) [['a']] = none := by decide +kernel
    obtain ⟨b, hb, -, hentries⟩ := (ofText_tells annals [['a']]).1.exists_ok hmalformed hrowless
    obtain ⟨c, hc, hget⟩ := hentries ['a'] List.mem_cons_self
    use b, c, hb, hget
    have hlast : (lastRow? (BaselineSheet.candidates annals) ['a']).map (·.notes) =
        some "last".toList := by decide +kernel
    simpa [hc] using hlast
  · have hmalformed :
        (malformed? SheetCells.entry? (BaselineSheet.candidates annals) [['a'], ['b']]).map
          (fun c => (c.scenario, c.notes)) = some (['b'], "malformed".toList) := by decide +kernel
    obtain ⟨c, hc, hfields⟩ := Option.map_eq_some_iff.1 hmalformed
    obtain ⟨hscenario, hnotes⟩ := Prod.mk.inj hfields
    have herror := (ofText_tells annals [['a'], ['b']]).1.eq_error hc
    use c, hnotes
    rw [herror, hscenario]

end Baseline

end PerfGate
