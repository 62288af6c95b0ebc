import PerfGate.Machine.Shell.Syntax
import PerfGate.Numeral

/-!
# Tokens of the shell

A script is cut into words, operators and line ends.  The text of a here-document starts at
the next line end and is kept apart from the tokens, in the order in which it is announced.
-/

namespace PerfGate

namespace Shell

/-- A token. -/
inductive Token where
  /-- A word, with its line. -/
  | word (w : Word) (line : Nat)
  /-- An operator; redirections have the channel in front. -/
  | operator (t : Text)
  | redirect (channel : Option Nat) (operator : Text)
  | newline
deriving DecidableEq, Inhabited

/-! ### Parts -/

/-- The text up to the closing bracket that matches, and what stands behind it.  Brackets in
quotes do not count. -/
def closing (opener closer : Char) : (depth : Nat) → (quote : Option Char) → Text → Text × Text
  | _, _, [] => ([], [])
  | depth, some q, '\\' :: c :: t =>
    let (inner, rest) := closing opener closer depth (some q) t
    ('\\' :: c :: inner, rest)
  | depth, some q, c :: t =>
    let (inner, rest) := closing opener closer depth (if c == q then none else some q) t
    (c :: inner, rest)
  | depth, none, '\\' :: c :: t =>
    let (inner, rest) := closing opener closer depth none t
    ('\\' :: c :: inner, rest)
  | depth, none, c :: t =>
    if c == closer then
      match depth with
      | 0 => ([], t)
      | depth + 1 =>
        let (inner, rest) := closing opener closer depth none t
        (c :: inner, rest)
    else
      let (inner, rest) := closing opener closer (if c == opener then depth + 1 else depth)
        (if c == '\'' || c == '"' then some c else none) t
      (c :: inner, rest)

/-- The text up to the next backquote, and what stands behind it. -/
def untilBackquote : Text → Text × Text
  | [] => ([], [])
  | '\\' :: c :: t =>
    let (inner, rest) := untilBackquote t
    (if c == '\x60' || c == '\\' || c == '$' then c :: inner else '\\' :: c :: inner, rest)
  | c :: t =>
    if c == '\x60' then ([], t)
    else
      let (inner, rest) := untilBackquote t
      (c :: inner, rest)

/-- Whether a character is a parameter of its own. -/
def isSpecial (c : Char) : Bool := "@*#?$!-0123456789".toList.contains c

/-- The operators in braces, each in front of those that it starts with. -/
def operators : List Text := [":-", ":=", ":+", ":?", "-", "=", "+", "?", "%%", "%", "##", "#"].map
  String.toList

/-- The parameter that stands in braces. -/
def braced (inner : Text) (quoted : Bool) : Part :=
  match inner with
  | '#' :: c :: t => .parameter (c :: t) "length".toList [] quoted
  | c :: t =>
    let name := if isSpecial c then [c] else (c :: t).takeWhile isNameChar
    let rest := inner.drop name.length
    match operators.find? (Text.startsWith · rest) with
    | some op => .parameter name op (rest.drop op.length) quoted
    | none => .parameter name [] [] quoted
  | [] => .literal [] quoted

/-- The part behind a dollar, and what stands behind it. -/
def dollar (t : Text) (quoted : Bool) : Part × Text :=
  match t with
  | '(' :: t =>
    let (inner, rest) := closing '(' ')' 0 none t
    if inner.head? == some '(' && inner.getLast? == some ')' then
      (.arithmetic (inner.drop 1).dropLast quoted, rest)
    else (.output inner quoted, rest)
  | '\x7b' :: t =>
    let (inner, rest) := closing '\x7b' '\x7d' 0 none t
    (braced inner quoted, rest)
  | c :: t =>
    if isSpecial c then (.parameter [c] [] [] quoted, t)
    else if startsName c then
      (.parameter ((c :: t).takeWhile isNameChar) [] [] quoted, (c :: t).dropWhile isNameChar)
    else (.literal ['$'] quoted, c :: t)
  | [] => (.literal ['$'] quoted, [])

/-- The characters that a backslash in double quotes takes their meaning from. -/
def isEscapable (c : Char) : Bool := c == '$' || c == '\x60' || c == '"' || c == '\\'

/-- The parts up to a closing double quote or to the end, and what stands behind it. -/
def quotedParts : (fuel : Nat) → (stop : Option Char) → Text → Word × Text
  | 0, _, t => ([], t)
  | _, _, [] => ([], [])
  | fuel + 1, stop, '\\' :: '\n' :: t => quotedParts fuel stop t
  | fuel + 1, stop, '\\' :: c :: t =>
    let (parts, rest) := quotedParts fuel stop t
    (.literal (if isEscapable c then [c] else ['\\', c]) true :: parts, rest)
  | fuel + 1, stop, c :: t =>
    if stop == some c then ([], t)
    else if c == '$' then
      let (part, t) := dollar t true
      let (parts, rest) := quotedParts fuel stop t
      (part :: parts, rest)
    else if c == '\x60' then
      let (script, t) := untilBackquote t
      let (parts, rest) := quotedParts fuel stop t
      (.output script true :: parts, rest)
    else
      let (parts, rest) := quotedParts fuel stop t
      (.literal [c] true :: parts, rest)

/-- The parts of a text in which all but the expansions stands for itself. -/
def textParts (t : Text) : Word := (quotedParts (t.length + 1) none t).1

/-- Whether a character ends a word. -/
def endsWord (c : Char) : Bool := " \t\n;&|<>()".toList.contains c

/-- The parts of the word that a text starts with, and what stands behind it.  If `whole`
is set the word is the whole text, and the characters that would end it are values. -/
def wordParts (whole : Bool) : (fuel : Nat) → Text → Word × Text
  | 0, t => ([], t)
  | _, [] => ([], [])
  | fuel + 1, '\\' :: '\n' :: t => wordParts whole fuel t
  | fuel + 1, '\\' :: c :: t =>
    let (parts, rest) := wordParts whole fuel t
    (.literal [c] true :: parts, rest)
  | fuel + 1, c :: t =>
    if endsWord c then
      if whole then
        let (parts, rest) := wordParts whole fuel t
        (.value [c] false :: parts, rest)
      else ([], c :: t)
    else if c == '\'' then
      let inner := t.takeWhile (· != '\'')
      let (parts, rest) := wordParts whole fuel ((t.dropWhile (· != '\'')).drop 1)
      (.literal inner true :: parts, rest)
    else if c == '"' then
      let (inner, t) := quotedParts (t.length + 1) (some '"') t
      let (parts, rest) := wordParts whole fuel t
      ((if inner.isEmpty then [.literal [] true] else inner) ++ parts, rest)
    else if c == '$' then
      let (part, t) := dollar t false
      let (parts, rest) := wordParts whole fuel t
      (part :: parts, rest)
    else if c == '\x60' then
      let (script, t) := untilBackquote t
      let (parts, rest) := wordParts whole fuel t
      (.output script false :: parts, rest)
    else
      let (parts, rest) := wordParts whole fuel t
      (.literal [c] false :: parts, rest)

/-- The text of a word without expansions. -/
def wordText (w : Word) : Text := w.flatMap fun
  | .literal t _ => t
  | _ => []

/-- Whether some part of a word stood in quotes. -/
def hasQuotes (w : Word) : Bool := w.any fun
  | .literal _ quoted => quoted
  | _ => true

/-! ### Here-documents -/

/-- A here-document whose text is still to come. -/
structure Pending where
  /-- The line that ends it. -/
  mark : Text
  /-- Whether its text stands for itself. -/
  literal : Bool
  /-- Whether tabs at the starts of its lines are left out. -/
  dropsTabs : Bool

/-- The lines up to the mark, and what stands behind it. -/
def hereLines (p : Pending) : List Text → List Text × List Text
  | [] => ([], [])
  | l :: ls =>
    let l := if p.dropsTabs then l.dropWhile (· == '\t') else l
    if l == p.mark then ([], ls)
    else
      let (body, rest) := hereLines p ls
      (l :: body, rest)

/-- The texts of here-documents at the start of some lines, and the lines behind them. -/
def hereTexts : List Pending → List Text → List Word × List Text
  | [], ls => ([], ls)
  | p :: ps, ls =>
    let (body, ls) := hereLines p ls
    let text := Text.unlines body
    let (words, ls) := hereTexts ps ls
    ((if p.literal then [.literal text true] else textParts text) :: words, ls)

/-! ### Scripts -/

/-- The operators between commands, each in front of those that it starts with. -/
def controls : List Text := ["&&", "||", ";;", ";", "&", "|", "(", ")"].map String.toList

/-- The operators of redirections, each in front of those that it starts with. -/
def redirections : List Text := ["<<-", "<<", "<&", "<", ">>", ">&", ">|", ">"].map String.toList

/-- The channel number in front of a redirection, if there is one. -/
def channel? (t : Text) : Option Nat :=
  let digits := t.takeWhile Text.isDigit
  match t.drop digits.length with
  | '<' :: _ | '>' :: _ => if digits.isEmpty then none else some (Decimal.value digits)
  | _ => none

/-- The tokens of a script, and the texts of its here-documents. -/
def tokens : (fuel : Nat) → (line : Nat) → List Pending → (announced : Option Bool) → Text →
    List Token × List Word
  | 0, _, _, _, _ => ([], [])
  | _, _, _, _, [] => ([], [])
  | fuel + 1, line, pending, announced, '\\' :: '\n' :: t =>
    tokens fuel (line + 1) pending announced t
  | fuel + 1, line, pending, announced, c :: t =>
    if c == ' ' || c == '\t' then tokens fuel line pending announced t
    else if c == '#' then tokens fuel line pending announced (t.dropWhile (· != '\n'))
    else if c == '\n' then
      let (bodies, lines) := hereTexts pending (Text.pieces (· == '\n') t)
      let rest := Text.join ['\n'] lines
      let read := (t.take (t.length - rest.length)).count '\n'
      let (toks, more) := tokens fuel (line + 1 + read) [] none rest
      (.newline :: toks, bodies ++ more)
    else
      let digits := (channel? (c :: t)).map fun _ => (c :: t).takeWhile Text.isDigit
      let behind := (c :: t).drop ((digits.map List.length).getD 0)
      match redirections.find? (Text.startsWith · behind) with
      | some op =>
        let here := Text.startsWith "<<".toList op
        let (toks, bodies) := tokens fuel line pending
          (if here then some (op.length == 3) else none) (behind.drop op.length)
        (.redirect (channel? (c :: t)) op :: toks, bodies)
      | none =>
        match controls.find? (Text.startsWith · (c :: t)) with
        | some op =>
          let (toks, bodies) := tokens fuel line pending none ((c :: t).drop op.length)
          (.operator op :: toks, bodies)
        | none =>
          let (w, rest) := wordParts false (t.length + 2) (c :: t)
          let pending := match announced with
            | some dropsTabs => pending ++
                [{ mark := wordText w, literal := hasQuotes w, dropsTabs }]
            | none => pending
          let read := ((c :: t).take (t.length + 1 - rest.length)).count '\n'
          let (toks, bodies) := tokens fuel (line + read) pending none rest
          (.word w line :: toks, bodies)

/-- The tokens of a script, and the texts of its here-documents. -/
def lex (script : Text) : List Token × List Word := tokens (script.length + 1) 1 [] none script

end Shell

end PerfGate
