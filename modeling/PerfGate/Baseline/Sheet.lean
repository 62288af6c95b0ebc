import PerfGate.Baseline.Row

/-!
# Baseline sheets

A baseline is kept in a text, its sheet.  The rows stand in sections with the heading
`## Results`; such a section ends at the next line that starts with `## `.  All other lines
are kept as they are: the preamble in front of the first such heading, the table head in
front of the first row, the lines above each later row, and the trailer behind the last.
A sheet is written as the text it was read from, carriage returns at line ends apart.
-/

namespace PerfGate

/-- A baseline sheet. -/
structure BaselineSheet where
  /-- The lines before the first results heading. -/
  preamble : List Text := []
  /-- The lines between that heading and the first row. -/
  tableHead : List Text := ["".toList,
    "| Scenario | RPS | p99 | Avg Latency | CPU | RSS | Notes |".toList,
    "|---|---:|---:|---:|---:|---:|---|".toList]
  /-- The rows. -/
  rows : List SheetRow := []
  /-- The lines after the last row. -/
  trailer : List Text := []
  /-- Whether there is a results heading. -/
  hasResults : Bool := true
  /-- Whether the text ends with a line feed. -/
  finalNewline : Bool := true
deriving DecidableEq

namespace BaselineSheet

/-- The heading of a section with rows. -/
def resultsHeading : Text := "## Results".toList

/-- What every heading of a section starts with. -/
def headingMark : Text := "## ".toList

/-! ### Reading -/

/-- Puts a line in front of rows and the lines after them: above the first row, or in
front of the lines after if there is no row. -/
def pushLine (l : Text) : List SheetRow × List Text → List SheetRow × List Text
  | ([], rest) => ([], l :: rest)
  | (r :: rows, rest) => ({ r with leading := l :: r.leading } :: rows, rest)

/-- Whether a results section is open behind a line. -/
def opens (inside : Bool) (l : Text) : Bool :=
  if Text.startsWith headingMark l then l == resultsHeading else inside

/-- The row that a line is, if a results section is open in front of it. -/
def rowAt? (inside : Bool) (l : Text) : Option SheetRow :=
  if Text.startsWith headingMark l || !inside then none else SheetRow.ofLine? l

/-- The rows among lines, each with the lines above it, and the lines after the last. -/
def scan (inside : Bool) : List Text → List SheetRow × List Text
  | [] => ([], [])
  | l :: ls =>
    match rowAt? inside l with
    | some row =>
      let (rows, rest) := scan (opens inside l) ls
      (row :: rows, rest)
    | none => pushLine l (scan (opens inside l) ls)

/-- The parts of a sheet behind its first results heading. -/
def ofBody (preamble : List Text) (finalNewline : Bool) (body : List Text) : BaselineSheet :=
  match scan true body with
  | ([], rest) => { preamble, tableHead := rest, finalNewline }
  | (r :: rows, rest) =>
    { preamble, tableHead := r.leading, rows := { r with leading := [] } :: rows
      trailer := rest, finalNewline }

/-- The sheet that a text is. -/
def ofText (t : Text) : BaselineSheet :=
  let ls := Text.lines t
  let preamble := ls.takeWhile (· != resultsHeading)
  let finalNewline := t.isEmpty || t.getLast? == some '\n'
  match ls.dropWhile (· != resultsHeading) with
  | [] => { preamble, tableHead := [], hasResults := false, finalNewline }
  | _ :: body => ofBody preamble finalNewline body

/-! ### Writing -/

/-- The lines of a sheet. -/
def toLines (d : BaselineSheet) : List Text :=
  d.preamble ++
    if d.hasResults || !d.rows.isEmpty then
      resultsHeading :: d.tableHead ++ d.rows.flatMap (fun r => r.leading ++ [r.line]) ++ d.trailer
    else []

/-- The text of a sheet. -/
def toText (d : BaselineSheet) : Text :=
  let t := Text.unlines d.toLines
  if d.finalNewline then t else t.dropLast

end BaselineSheet

end PerfGate
