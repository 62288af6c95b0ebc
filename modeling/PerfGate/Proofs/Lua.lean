import PerfGate.Text

/-!
# Scripts of assignments

A part of Lua: scripts that do nothing but assign strings to fields of tables.  A script is read
character by character, so what has been read of it decides what the next character means.  All
that is not of this part is refused: a script that is read has the meaning that was read, and does
nothing else.
-/

namespace PerfGate

namespace Lua

/-! ### Tokens -/

/-- What a script is made of. -/
inductive Token where
  | name (t : Text)
  | sign (c : Char)
  /-- A string, by what it denotes. -/
  | literal (value : Text)
deriving DecidableEq

/-- Whether a character ends a line; a literal may not hold it. -/
def isLineBreak (c : Char) : Bool := c == '\n' || c == '\r'

/-- Whether a character opens a literal, and closes the literals that it opened. -/
def isQuote (c : Char) : Bool := c == '\'' || c == '"'

/-- Whether a character is a sign of its own. -/
def isSign (c : Char) : Bool := c == '.' || c == '[' || c == ']' || c == '='

/-- Whether a name can start with a character. -/
def startsName (c : Char) : Bool := c.isAlpha || c == '_'

/-- Whether a name can go on with a character. -/
def continuesName (c : Char) : Bool := startsName c || Text.isDigit c

/-- The words that are no names. -/
def reserved : List Text :=
  ["and", "break", "do", "else", "elseif", "end", "false", "for", "function", "if", "in", "local",
    "nil", "not", "or", "repeat", "return", "then", "true", "until", "while"].map String.toList

/-- Whether a token is a word that is no name. -/
def Token.isReserved : Token → Bool
  | name t => reserved.contains t
  | _ => false

/-! ### Reading -/

/-- What a reader is in the middle of. -/
inductive Mode where
  | between
  | name (t : Text)
  | sign (c : Char)
  /-- A literal, and what it denotes so far. -/
  | literal (quote : Char) (value : Text)
  /-- A literal, directly behind a backslash. -/
  | escape (quote : Char) (value : Text)
deriving DecidableEq

/-- What has been read of a script. -/
structure Reading where
  /-- The tokens that are over. -/
  tokens : List Token := []
  /-- What the reader is in the middle of. -/
  mode : Mode := .between
deriving DecidableEq

/-- What a character means that is in no token. -/
def enter (tokens : List Token) (c : Char) : Option Reading :=
  if Text.isBlank c then some ⟨tokens, .between⟩
  else if isQuote c then some ⟨tokens, .literal c []⟩
  else if isSign c then some ⟨tokens, .sign c⟩
  else if startsName c then some ⟨tokens, .name [c]⟩
  else none

/-- What the next character means.  Signs side by side are refused, since two of them can be one
token.  In a literal, a backslash or a quote behind a backslash denotes itself, the quote that
opened it ends it, and of all else that is no line break every character denotes itself. -/
def Reading.next (r : Reading) (c : Char) : Option Reading :=
  match r.mode with
  | .between => enter r.tokens c
  | .name t =>
    if continuesName c then some ⟨r.tokens, .name (t ++ [c])⟩
    else enter (r.tokens ++ [.name t]) c
  | .sign s => if isSign c then none else enter (r.tokens ++ [.sign s]) c
  | .literal quote value =>
    if c == quote then some ⟨r.tokens ++ [.literal value], .between⟩
    else if c == '\\' then some ⟨r.tokens, .escape quote value⟩
    else if isLineBreak c then none
    else some ⟨r.tokens, .literal quote (value ++ [c])⟩
  | .escape quote value =>
    if c == '\\' || isQuote c then some ⟨r.tokens, .literal quote (value ++ [c])⟩ else none

/-- What has been read behind some more characters. -/
def Reading.through (r : Reading) (t : Text) : Option Reading := t.foldlM Reading.next r

/-- The tokens of a script, which has to end between two of them. -/
def tokens? (t : Text) : Option (List Token) :=
  match Reading.through {} t with
  | some ⟨tokens, .between⟩ => some tokens
  | _ => none

/-! ### Assignments -/

/-- A string that is assigned to a field of a table. -/
structure Assignment where
  /-- The name of the table, and the names of the fields that lead from there to the field. -/
  path : List Text
  /-- The string. -/
  value : Text
deriving DecidableEq

/-- The assignments that tokens make, the first of them behind the path that was read of it. -/
def assignmentsBehind? : (path : List Text) → List Token → Option (List Assignment)
  | [], [] => some []
  | [], .name t :: ts => assignmentsBehind? [t] ts
  | p :: ps, .sign '.' :: .name t :: ts => assignmentsBehind? (p :: ps ++ [t]) ts
  | p :: ps, .sign '[' :: .literal t :: .sign ']' :: ts => assignmentsBehind? (p :: ps ++ [t]) ts
  | p :: ps, .sign '=' :: .literal t :: ts => (assignmentsBehind? [] ts).map (⟨p :: ps, t⟩ :: ·)
  | _, _ => none

/-- The assignments of a script, if it does nothing else. -/
def assignments? (t : Text) : Option (List Assignment) :=
  (tokens? t).bind fun ts => if ts.any Token.isReserved then none else assignmentsBehind? [] ts

/-! ### Small facts -/

variable {r : Reading} {tokens : List Token} {quote c : Char} {value : Text}

theorem through_append (r : Reading) (a b : Text) :
  r.through (a ++ b) = (r.through a).bind fun r' => r'.through b
  := List.foldlM_append ..

theorem through_cons (r : Reading) (c : Char) (t : Text) :
  r.through (c :: t) = (r.next c).bind fun r' => r'.through t
  := List.foldlM_cons

theorem next_close :
  Reading.next ⟨tokens, .literal quote value⟩ quote = some ⟨tokens ++ [.literal value], .between⟩
  := by
  simp [Reading.next]

theorem next_backslash (hquote : quote ≠ '\\') :
  Reading.next ⟨tokens, .literal quote value⟩ '\\' = some ⟨tokens, .escape quote value⟩
  := by
  simp [Reading.next, hquote.symm]

theorem next_escaped (hc : (c == '\\' || isQuote c) = true) :
  Reading.next ⟨tokens, .escape quote value⟩ c = some ⟨tokens, .literal quote (value ++ [c])⟩
  := by
  simp only [Reading.next, hc, if_true]

/-- A character that is not special in a literal denotes itself, unless it breaks the line. -/
theorem next_plain (hquote : c ≠ quote) (hbackslash : c ≠ '\\') :
  Reading.next ⟨tokens, .literal quote value⟩ c =
    if isLineBreak c then none else some ⟨tokens, .literal quote (value ++ [c])⟩
  := by
  simp [Reading.next, hquote, hbackslash]

end Lua

end PerfGate
