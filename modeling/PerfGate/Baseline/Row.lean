import PerfGate.Text

/-!
# Rows of a baseline table

A row of the results table is a line of cells between bars, the first of them the name of
a scenario in backquotes.  `SheetCells.ofLine?` recognises such a line and
`SheetCells.line` writes one.  A row keeps the line it was read from, and is written as
that line for as long as its cells are the ones the line holds.
-/

namespace PerfGate

/-- The cells of a row, without the blanks around them. -/
structure SheetCells where
  /-- The name of the scenario, without backquotes. -/
  scenario : Text := []
  /-- Requests per second. -/
  rps : Text := []
  /-- The 99th percentile of the latency, with its unit. -/
  p99 : Text := []
  /-- A column that holds nothing. -/
  avgLatency : Text := []
  /-- Processor time in percent. -/
  cpu : Text := []
  /-- Resident memory in kilobytes. -/
  rss : Text := []
  /-- Free text. -/
  notes : Text := []
deriving DecidableEq

namespace SheetCells

/-- The backquote, which stands around names. -/
def quoteChar : Char := '\x60'

/-- Whether the cell of a name is quoted, with something between the quotes. -/
def isQuotedName (cell : Text) : Bool :=
  3 ≤ cell.length && cell.head? == some quoteChar && cell.getLast? == some quoteChar

/-- The cells of a line that is a row: it starts with a bar, a space and a backquote, has
at least six cells behind the first bar, a quoted name in the first one, a percent sign in
the cell of the processor time and `KB` in that of the memory. -/
def ofLine? (line : Text) : Option SheetCells :=
  if !Text.startsWith ['|', ' ', quoteChar] line then none
  else
    match Text.pieces (· == '|') line with
    | _ :: name :: rps :: p99 :: avgLatency :: cpu :: rss :: more =>
      let name := Text.trim name
      let cells : SheetCells :=
        { scenario := Text.trim (Text.strip [quoteChar] name)
          rps := Text.trim rps
          p99 := Text.trim p99
          avgLatency := Text.trim avgLatency
          cpu := Text.trim cpu
          rss := Text.trim rss
          notes := Text.trim (more.headD []) }
      if isQuotedName name && cells.cpu.contains '%' && Text.occursIn ['K', 'B'] cells.rss
          && !cells.scenario.isEmpty then
        some cells
      else none
    | _ => none

/-- The line of a row in canonical form. -/
def line (c : SheetCells) : Text :=
  let bar := [' ', '|', ' ']
  ['|', ' ', quoteChar] ++ c.scenario ++ quoteChar :: bar ++ c.rps ++ bar ++ c.p99 ++ bar ++
    c.avgLatency ++ bar ++ c.cpu ++ bar ++ c.rss ++ bar ++ c.notes ++ [' ', '|']

end SheetCells

/-- A row of the results table. -/
structure SheetRow where
  /-- The cells. -/
  cells : SheetCells := {}
  /-- The lines directly above the row that are no rows. -/
  leading : List Text := []
  /-- The line that the row was read from. -/
  source : Text := []
deriving DecidableEq

namespace SheetRow

/-- The row of a line. -/
def ofLine? (line : Text) : Option SheetRow :=
  (SheetCells.ofLine? line).map fun cells => { cells, source := line }

/-- The line to write: the one the row was read from, unless the cells were changed. -/
def line (r : SheetRow) : Text :=
  if SheetCells.ofLine? r.source = some r.cells then r.source else r.cells.line

end SheetRow

end PerfGate
