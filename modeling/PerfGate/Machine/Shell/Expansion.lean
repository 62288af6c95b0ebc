import PerfGate.Machine.Shell.Arithmetic
import PerfGate.Machine.Shell.Lexer
import PerfGate.Machine.Shell.Pattern

/-!
# Expansion of words

The parts of a word are replaced by their values, and the values that did not stand in
quotes are cut into fields at separators, which are blanks unless the script has others.  A
word with nothing in it makes no field, unless there were quotes.
-/

namespace PerfGate

namespace Shell

/-- What parameters stand for. -/
structure Scope where
  /-- The variables. -/
  lookup : Text → Option Text
  /-- The name of the script. -/
  zero : Text
  /-- The arguments. -/
  arguments : List Text
  /-- The characters that end fields. -/
  separators : Text := " \t\n".toList

/-- A piece of an expanded word. -/
inductive Piece where
  /-- A character. -/
  | mark (m : Mark)
  /-- A separator that ends a field. -/
  | cut (c : Char)
  /-- A sign that there is a field, even if it is empty. -/
  | hold
deriving Inhabited

/-- The pieces of a value.  A separator that is no blank ends a field even if the field is
empty. -/
def valuePieces (separators t : Text) (quoted : Bool) : List Piece :=
  if quoted then .hold :: (marks true t).map .mark
  else t.flatMap fun c =>
    if !separators.contains c then [.mark { char := c, quoted := false }]
    else if Text.isBlank c then [.cut c]
    else [.hold, .cut c]

/-- The value of a parameter other than that of all arguments. -/
def Scope.value? (s : Scope) (name : Text) : Option Text :=
  match Numeral.natural? name with
  | some 0 => some s.zero
  | some n => s.arguments[n - 1]?
  | none =>
    if name == ['#'] then some (Decimal.digits s.arguments.length)
    else if name == ['*'] || name == ['@'] then
      if s.arguments.isEmpty then none else some (Text.join [' '] s.arguments)
    else s.lookup name

/-- All arguments as fields. -/
def argumentPieces (s : Scope) (quoted : Bool) : List Piece :=
  List.flatten ((s.arguments.map (valuePieces s.separators · quoted)).intersperse [.cut ' '])

/-- The value of a variable as a number. -/
def Scope.number (s : Scope) (name : Text) : Int :=
  ((s.value? name).bind Numeral.integer?).getD 0

/-- The pieces of a parameter with an operator; `operand` is the expanded operand. -/
def operatorPieces (s : Scope) (name op : Text) (operand : List Piece) (quoted : Bool) :
    List Piece :=
  let value := s.value? name
  let set := if op.head? == some ':' then value.any (!·.isEmpty) else value.isSome
  let pieces (t : Text) : List Piece := valuePieces s.separators t quoted
  let own := pieces (value.getD [])
  let pattern := operand.filterMap fun
    | .mark m => some m
    | _ => none
  match String.ofList op with
  | ":-" | "-" | ":=" | "=" => if set then own else operand
  | ":+" | "+" => if set then operand else []
  | "length" => pieces (Decimal.digits (value.getD []).length)
  | "#" => pieces (Pattern.dropStart pattern false (value.getD []))
  | "##" => pieces (Pattern.dropStart pattern true (value.getD []))
  | "%" => pieces (Pattern.dropEnd pattern false (value.getD []))
  | "%%" => pieces (Pattern.dropEnd pattern true (value.getD []))
  | _ => own

/-- The pieces of a part.  Operands are words of their own, `depth` bounds how deep. -/
def partPieces (s : Scope) : (depth : Nat) → Part → List Piece
  | _, .literal t quoted =>
    (if quoted then [.hold] else []) ++ (marks quoted t).map .mark
  | _, .value t quoted => valuePieces s.separators t quoted
  | _, .output _ _ => []
  | _, .arithmetic e quoted =>
    valuePieces s.separators (Decimal.signed ((Arithmetic.value? s.number e).getD 0)) quoted
  | 0, .parameter .. => []
  | depth + 1, .parameter name op operand quoted =>
    if op.isEmpty then
      if name == ['@'] || (name == ['*'] && !quoted) then argumentPieces s quoted
      else valuePieces s.separators ((s.value? name).getD []) quoted
    else
      let word :=
      if quoted then textParts operand else (wordParts true (operand.length + 1) operand).1
      operatorPieces s name op (word.flatMap (partPieces s depth)) quoted

/-- The pieces of a word. -/
def wordPieces (s : Scope) (w : Word) : List Piece := w.flatMap (partPieces s 8)

/-- The fields that pieces make. -/
def fieldsOf : (current : Option (List Mark)) → List Piece → List (List Mark)
  | current, [] => current.toList
  | current, .cut _ :: ps => current.toList ++ fieldsOf none ps
  | current, .hold :: ps => fieldsOf (some (current.getD [])) ps
  | current, .mark m :: ps => fieldsOf (some (current.getD [] ++ [m])) ps

/-- The fields of some words; `paths` tells what a field stands for. -/
def expand (s : Scope) (paths : List Mark → List Text) (ws : List Word) : List Text :=
  ws.flatMap fun w => (fieldsOf none (wordPieces s w)).flatMap paths

/-- A word as a pattern: it is not cut into fields. -/
def wordPattern (s : Scope) (w : Word) : List Mark := (wordPieces s w).filterMap fun
  | .mark m => some m
  | .cut c => some { char := c, quoted := false }
  | .hold => none

/-- A word as one text. -/
def wordValue (s : Scope) (w : Word) : Text := plain (wordPattern s w)

/-! ### Outputs in words -/

/-- The first script in a word whose output is asked for. -/
def firstOutput? (w : Word) : Option Text := w.findSome? fun
  | .output script _ => some script
  | _ => none

/-- The word with a value for that output. -/
def fillOutput (t : Text) : Word → Word
  | [] => []
  | .output _ quoted :: w => .value t quoted :: w
  | p :: w => p :: fillOutput t w

/-- The words with a value for the first output in them. -/
def fillFirst (t : Text) : List Word → List Word
  | [] => []
  | w :: ws => if (firstOutput? w).isSome then fillOutput t w :: ws else w :: fillFirst t ws

/-- Assignments with a value for the first output in them. -/
def fillAssignments (t : Text) (as : List (Text × Word)) : List (Text × Word) :=
  List.zip (as.map (·.1)) (fillFirst t (as.map (·.2)))

namespace Simple

/-- The first script in a command whose output is asked for. -/
def output? (s : Simple) : Option Text :=
  (s.assignments.map (·.2) ++ s.words ++ s.redirects.map (·.target)).findSome? firstOutput?

/-- The command with a value for that output. -/
def fill (t : Text) (s : Simple) : Simple :=
  if s.assignments.any fun a => (firstOutput? a.2).isSome then
    { s with assignments := fillAssignments t s.assignments }
  else if s.words.any fun w => (firstOutput? w).isSome then
    { s with words := fillFirst t s.words }
  else
    let targets := fillFirst t (s.redirects.map (·.target))
    { s with redirects := s.redirects.zipWith (fun d w => { d with target := w }) targets }

end Simple

namespace Cmd

/-- The first script in the words of a command whose output is asked for. -/
def output? : Cmd → Option Text
  | .simple s => s.output?
  | .each _ (some ws) _ => ws.findSome? firstOutput?
  | .select w _ => firstOutput? w
  | _ => none

/-- The command with a value for that output. -/
def fill (t : Text) : Cmd → Cmd
  | .simple s => .simple (s.fill t)
  | .each name (some ws) body => .each name (some (fillFirst t ws)) body
  | .select w arms => .select (fillOutput t w) arms
  | c => c

/-- Whether a command only assigns, so that its status is that of an output in it. -/
def onlyAssigns : Cmd → Bool
  | .simple s => s.words.isEmpty && s.redirects.isEmpty
  | _ => false

end Cmd

end Shell

end PerfGate
