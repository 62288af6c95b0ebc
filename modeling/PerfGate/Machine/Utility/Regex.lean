import PerfGate.Machine.Shell.Pattern

/-!
# Regular expressions

Expressions are matched by derivatives: what is left to match behind a character.  The start
and the end of a line are characters of their own, put around it, so anchors are ordinary
characters.
-/

namespace PerfGate

/-- A regular expression. -/
inductive Regex where
  /-- Matches nothing. -/
  | none
  /-- Matches the empty text. -/
  | empty
  | char (c : Char)
  /-- Any character of a line. -/
  | any
  /-- Any character, the ends of a line too. -/
  | anything
  | set (negated : Bool) (members : List Shell.Mark)
  | then (a b : Regex)
  | or (a b : Regex)
  | star (a : Regex)
deriving DecidableEq, Inhabited

namespace Regex

/-- The character in front of a line. -/
def lineStart : Char := '\x02'

/-- The character behind a line. -/
def lineEnd : Char := '\x03'

/-- Whether a character is part of a line. -/
def isInside (c : Char) : Bool := c != lineStart && c != lineEnd

/-- Whether the empty text is matched. -/
def nullable : Regex → Bool
  | none | char _ | any | anything | set _ _ => false
  | empty | star _ => true
  | «then» a b => nullable a && nullable b
  | or a b => nullable a || nullable b

/-- Both in order, without what plainly matches nothing. -/
def join (a b : Regex) : Regex :=
  if a = none ∨ b = none then none else if a = empty then b else .then a b

/-- One of two, without what plainly matches nothing or is there already. -/
def alt (a b : Regex) : Regex :=
  if a = none then b else if b = none ∨ a = b then a else .or a b

/-- What is left to match behind a character. -/
def derive (c : Char) : Regex → Regex
  | none | empty => none
  | char d => if c == d then empty else none
  | any => if isInside c then empty else none
  | anything => empty
  | set negated members =>
    if isInside c && Shell.Pattern.isMember c members != negated then empty else none
  | «then» a b =>
    if nullable a then alt (join (derive c a) b) (derive c b) else join (derive c a) b
  | or a b => alt (derive c a) (derive c b)
  | star a => join (derive c a) (star a)

/-- Whether a whole text is matched. -/
def matchesAll (r : Regex) (t : Text) : Bool := nullable (t.foldl (fun r c => derive c r) r)

/-- A line with the characters of its ends. -/
def framed (line : Text) : Text := lineStart :: line ++ [lineEnd]

/-- A text without the characters of the ends of a line. -/
def unframed (t : Text) : Text := t.filter isInside

/-- Whether some part of a line is matched. -/
def occursInLine (r : Regex) (line : Text) : Bool :=
  matchesAll (.then (star anything) (.then r (star anything)))
    (framed line)

/-! ### Places -/

/-- The length of the longest start of a text that is matched; `found` is the one so far. -/
def longest (r : Regex) : (done : Nat) → (found : Option Nat) → Text → Option Nat
  | done, found, [] => if nullable r then some done else found
  | done, found, c :: t =>
    let found := if nullable r then some done else found
    if r = none then found else longest (derive c r) (done + 1) found t

/-- What stands in front of the first longest match in a framed line, the match, and what
stands behind it.  A match at the start of the line that is empty is found behind its mark. -/
def first? (r : Regex) : Text → Option (Text × Text × Text)
  | [] => if nullable r then some ([], [], []) else Option.none
  | c :: t =>
    match longest r 0 Option.none (c :: t) with
    | some n =>
      if n = 0 && c == lineStart then
        (first? r t).map fun (front, hit, rest) => (c :: front, hit, rest)
      else some ([], (c :: t).take n, (c :: t).drop n)
    | Option.none => (first? r t).map fun (front, hit, rest) => (c :: front, hit, rest)

/-- The matches in a framed line that are not empty. -/
def all (r : Regex) : (fuel : Nat) → Text → List Text
  | 0, _ => []
  | fuel + 1, t =>
    match first? r t with
    | Option.none => []
    | some (_, hit, rest) =>
      let inside := unframed hit
      let rest := if hit.isEmpty then rest.drop 1 else rest
      (if inside.isEmpty then [] else [inside]) ++ all r fuel rest

/-! ### Reading -/

/-- A token of an expression: an operator or a character that stands for itself. -/
structure Token where
  /-- The character. -/
  char : Char
  /-- Whether it is an operator. -/
  special : Bool
deriving DecidableEq

/-- The tokens of an expression, in the extended or in the basic syntax. -/
def tokens (extended : Bool) : Text → List Token
  | [] => []
  | '\\' :: c :: t =>
    { char := c, special := !extended && "|()+?".toList.contains c } :: tokens extended t
  | c :: t =>
    let special := "*.^$[]".toList.contains c || (extended && "|()+?".toList.contains c)
    { char := c, special } :: tokens extended t

/-- Whether the next token is an operator. -/
def isNext (c : Char) (ts : List Token) : Bool := ts.head? == some { char := c, special := true }

mutual

/-- Alternatives. -/
def alternatives : (fuel : Nat) → List Token → Regex × List Token
  | 0, ts => (none, ts)
  | fuel + 1, ts =>
    let (a, ts) := sequence fuel ts
    if isNext '|' ts then
      let (b, ts) := alternatives fuel (ts.drop 1)
      (.or a b, ts)
    else (a, ts)

/-- Expressions in order. -/
def sequence : (fuel : Nat) → List Token → Regex × List Token
  | 0, ts => (empty, ts)
  | fuel + 1, ts =>
    if ts.isEmpty || isNext '|' ts || isNext ')' ts then (empty, ts)
    else
      let (a, ts) := atom fuel ts
      let (a, ts) := repeated fuel a ts
      let (b, ts) := sequence fuel ts
      (if b = empty then a else .then a b, ts)

/-- An expression with the repetitions behind it. -/
def repeated : (fuel : Nat) → Regex → List Token → Regex × List Token
  | 0, a, ts => (a, ts)
  | fuel + 1, a, ts =>
    if isNext '*' ts then repeated fuel (.star a) (ts.drop 1)
    else if isNext '+' ts then repeated fuel (.then a (.star a)) (ts.drop 1)
    else if isNext '?' ts then repeated fuel (.or a empty) (ts.drop 1)
    else (a, ts)

/-- One character, set, anchor or group. -/
def atom : (fuel : Nat) → List Token → Regex × List Token
  | 0, ts => (empty, ts)
  | _, [] => (empty, [])
  | fuel + 1, t :: ts =>
    if !t.special then (.char t.char, ts)
    else
      match t.char with
      | '.' => (any, ts)
      | '^' => (.char lineStart, ts)
      | '$' => (.char lineEnd, ts)
      | '(' =>
        let (a, ts) := alternatives fuel ts
        (a, if isNext ')' ts then ts.drop 1 else ts)
      | '[' =>
        let negated := isNext '^' ts
        let ts := if negated then ts.drop 1 else ts
        let marks : List Shell.Mark := ts.map fun u => { char := u.char, quoted := false }
        match Shell.Pattern.members true marks with
        | some (members, rest) => (.set negated members, ts.drop (ts.length - rest.length))
        | Option.none => (.char '[', ts)
      | c => (.char c, ts)

end

/-- The expression that a text stands for. -/
def ofText (extended : Bool) (t : Text) : Regex :=
  let ts := tokens extended t
  (alternatives (4 * ts.length + 4) ts).1

/-- The expression that matches a text only. -/
def ofLiteral (t : Text) : Regex := t.foldr (fun c r => .then (.char c) r) empty

end Regex

end PerfGate
