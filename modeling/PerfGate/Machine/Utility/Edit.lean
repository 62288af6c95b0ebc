import PerfGate.Machine.Utility.Options
import PerfGate.Machine.Utility.Regex

/-!
# Edits of lines

A script of edits is applied to each line in turn: lines are printed, deleted, or have what
an expression matches replaced.  An edit may be for some lines only.
-/

namespace PerfGate

namespace Edit

/-- Which line is meant. -/
inductive Address where
  | number (n : Nat)
  | last
  | lines (r : Regex)
deriving DecidableEq

/-- What is done to a line. -/
inductive Action where
  | print
  | delete
  | quit
  | replace (r : Regex) (new : Text) (everywhere : Bool)
deriving DecidableEq

/-- An edit of the lines from one to another, or of one line, or of all. -/
structure Command where
  first : Option Address := none
  second : Option Address := none
  action : Action
deriving DecidableEq

/-! ### Reading -/

/-- The text up to a mark, and what stands behind it; a backslash keeps the mark. -/
def untilMark (mark : Char) : Text → Text × Text
  | [] => ([], [])
  | '\\' :: c :: t =>
    let (inner, rest) := untilMark mark t
    (if c == mark then c :: inner else '\\' :: c :: inner, rest)
  | c :: t =>
    if c == mark then ([], t)
    else
      let (inner, rest) := untilMark mark t
      (c :: inner, rest)

/-- The address that a text starts with, and what stands behind it. -/
def address? (extended : Bool) (t : Text) : Option Address × Text :=
  match t with
  | '$' :: t => (some .last, t)
  | '/' :: t =>
    let (pattern, t) := untilMark '/' t
    (some (.lines (Regex.ofText extended pattern)), t)
  | t =>
    let digits := t.takeWhile Text.isDigit
    if digits.isEmpty then (none, t)
    else (some (.number (Decimal.value digits)), t.drop digits.length)

/-- The action that a text starts with, and what stands behind it. -/
def action? (extended : Bool) : Text → Option (Action × Text)
  | 'p' :: t => some (.print, t)
  | 'd' :: t => some (.delete, t)
  | 'q' :: t => some (.quit, t)
  | 's' :: mark :: t =>
    let (pattern, t) := untilMark mark t
    let (new, t) := untilMark mark t
    let flags := t.takeWhile Char.isAlphanum
    some (.replace (Regex.ofText extended pattern) new (flags.contains 'g'), t.drop flags.length)
  | _ => none

/-- The edits of a script. -/
def commands? (extended : Bool) : (fuel : Nat) → Text → Option (List Command)
  | 0, _ => none
  | fuel + 1, t =>
    let t := t.dropWhile fun c => Text.isBlank c || c == ';'
    if t.isEmpty then some []
    else do
      let (first, t) := address? extended t
      let (second, t) := match t with
        | ',' :: t => address? extended t
        | t => (none, t)
      let (action, t) ← action? extended (Text.trimStart t)
      some ({ first, second, action } :: (← commands? extended fuel t))

/-! ### Editing -/

/-- What a replacement stands for: an ampersand stands for what was matched. -/
def filled (hit : Text) : Text → Text
  | [] => []
  | '\\' :: 'n' :: t => '\n' :: filled hit t
  | '\\' :: c :: t => c :: filled hit t
  | '&' :: t => hit ++ filled hit t
  | c :: t => c :: filled hit t

/-- A framed line with matches replaced. -/
def replaced (r : Regex) (new : Text) (everywhere : Bool) : (fuel : Nat) → Text → Text
  | 0, t => t
  | fuel + 1, t =>
    match Regex.first? r t with
    | none => t
    | some (front, hit, rest) =>
      let shown := front ++ filled (Regex.unframed hit) new
      if !everywhere || rest.isEmpty then shown ++ rest
      else if hit.isEmpty then shown ++ rest.take 1 ++ replaced r new everywhere fuel (rest.drop 1)
      else shown ++ replaced r new everywhere fuel rest

/-- Whether an address means a line. -/
def Address.means (a : Address) (index count : Nat) (line : Text) : Bool :=
  match a with
  | .number n => n == index
  | .last => index == count
  | .lines r => r.occursInLine line

/-- Whether a command is for a line, and whether it is within its range behind it. -/
def Command.applies (c : Command) (inside : Bool) (index count : Nat) (line : Text) : Bool × Bool :=
  match c.first, c.second with
  | none, _ => (true, false)
  | some a, none => (a.means index count line, false)
  | some a, some b =>
    let ends : Bool := match b with
      | .number n => n ≤ index
      | b => b.means index count line
    if inside then (true, !ends)
    else if a.means index count line then
      (true, match b with
        | .number n => index < n
        | _ => index < count)
    else (false, false)

/-- What the edits of a line have come to. -/
structure State where
  line : Text
  output : Text := []
  deleted : Bool := false
  quits : Bool := false

/-- A line after its edits, and the commands that are within their ranges. -/
def editLine (index count : Nat) : List (Command × Bool) → State → State × List (Command × Bool)
  | [], s => (s, [])
  | (c, inside) :: cs, s =>
    if s.deleted || s.quits then (s, (c, inside) :: cs)
    else
      let (applies, inside) := c.applies inside index count s.line
      let s := if !applies then s else match c.action with
        | .print => { s with output := s.output ++ s.line ++ ['\n'] }
        | .delete => { s with deleted := true }
        | .quit => { s with quits := true }
        | .replace r new everywhere =>
          { s with line := Regex.unframed (replaced r new everywhere (s.line.length + 2)
              (Regex.framed s.line)) }
      let (s, rest) := editLine index count cs s
      (s, (c, inside) :: rest)

/-- The output for some lines. -/
def editLines (quiet : Bool) (count : Nat) : List (Command × Bool) → Nat → List Text → Text
  | _, _, [] => []
  | cs, index, line :: lines =>
    let (s, cs) := editLine index count cs { line }
    let out := s.output ++ if s.deleted || quiet then [] else s.line ++ ['\n']
    if s.quits then out else out ++ editLines quiet count cs (index + 1) lines

/-- What the edits of a script answer. -/
def reply (args : List Text) (input : Text) : Reply :=
  let (os, operands) := Options.ofArguments ['e'] args
  let script := (os.value? 'e').getD (operands.headD [])
  match commands? (os.has 'E' || os.has 'r') (script.length + 1) script with
  | none => { errors := "sed: -e expression #1, char 1: unknown command\n".toList, status := 1 }
  | some cs =>
    let lines := Text.rawLines input
    let out := editLines (os.has 'n') lines.length (cs.map fun c => (c, false)) 1 lines
    { output := if Text.endsWith ['\n'] input || input.isEmpty then out else out.dropLast }

end Edit

end PerfGate
