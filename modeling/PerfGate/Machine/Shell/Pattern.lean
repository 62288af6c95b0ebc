import PerfGate.Machine.Shell.Syntax

/-!
# Patterns of the shell

A pattern is a list of characters that know whether they are quoted.  Unquoted, `*` stands
for any text, `?` for any character, and brackets for one character of a set.
-/

namespace PerfGate

namespace Shell

/-- A character, and whether it was quoted. -/
structure Mark where
  /-- The character. -/
  char : Char
  /-- Whether it was quoted. -/
  quoted : Bool
deriving DecidableEq, Inhabited

/-- The characters of some marks. -/
def plain (ms : List Mark) : Text := ms.map (·.char)

/-- Marks on the characters of a text. -/
def marks (quoted : Bool) (t : Text) : List Mark := t.map fun char => { char, quoted }

namespace Pattern

/-- Whether a mark is an unquoted character. -/
def isBare (m : Mark) (c : Char) : Bool := !m.quoted && m.char == c

/-- The members of a set up to its closing bracket, and what stands behind it. -/
def members : (first : Bool) → List Mark → Option (List Mark × List Mark)
  | _, [] => none
  | first, m :: ms =>
    if isBare m ']' && !first then some ([], ms)
    else (members false ms).map fun (set, rest) => (m :: set, rest)

/-- Whether a character is one of a set with ranges. -/
def isMember (c : Char) : List Mark → Bool
  | a :: d :: b :: set =>
    (isBare d '-' && a.char ≤ c && c ≤ b.char) || a.char == c || isMember c (d :: b :: set)
  | a :: set => a.char == c || isMember c set
  | [] => false

/-- A step of a pattern. -/
inductive Step where
  | char (c : Char)
  | any
  | run
  | set (negated : Bool) (members : List Mark)
deriving Inhabited

/-- The steps of a pattern; a bracket without end stands for itself. -/
def steps : (fuel : Nat) → List Mark → List Step
  | 0, _ => []
  | _, [] => []
  | fuel + 1, m :: ms =>
    if isBare m '*' then .run :: steps fuel ms
    else if isBare m '?' then .any :: steps fuel ms
    else if isBare m '[' then
      let negated := ms.head?.any fun n => isBare n '!' || isBare n '^'
      match members true (if negated then ms.drop 1 else ms) with
      | some (set, rest) => .set negated set :: steps fuel rest
      | none => .char m.char :: steps fuel ms
    else .char m.char :: steps fuel ms

/-- Whether a text consists of what the steps stand for. -/
def fits : List Step → Text → Bool
  | [], t => t.isEmpty
  | .char c :: ss, a :: t => a == c && fits ss t
  | .any :: ss, _ :: t => fits ss t
  | .set negated set :: ss, a :: t => (isMember a set != negated) && fits ss t
  | .run :: ss, [] => fits ss []
  | .run :: ss, a :: t => fits ss (a :: t) || fits (.run :: ss) t
  | _ :: _, [] => false
termination_by ss t => (t.length, ss.length)

/-- Whether a text fits a pattern. -/
def matchesText (pattern : List Mark) (t : Text) : Bool :=
  fits (steps (pattern.length + 1) pattern) t

/-- The text without the shortest or the longest start that fits a pattern. -/
def dropStart (pattern : List Mark) (longest : Bool) (t : Text) : Text :=
  let lengths := List.range (t.length + 1)
  let lengths := if longest then lengths.reverse else lengths
  match lengths.find? fun n => matchesText pattern (t.take n) with
  | some n => t.drop n
  | none => t

/-- The text without the shortest or the longest end that fits a pattern. -/
def dropEnd (pattern : List Mark) (longest : Bool) (t : Text) : Text :=
  let lengths := List.range (t.length + 1)
  let lengths := if longest then lengths else lengths.reverse
  match lengths.find? fun n => matchesText pattern (t.drop n) with
  | some n => t.take n
  | none => t

end Pattern

end Shell

end PerfGate
