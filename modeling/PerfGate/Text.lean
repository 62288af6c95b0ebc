/-!
# Text

Text is a list of characters, so that every reader of the library is a recursion on
its input.  The character classes are those of ASCII: all other characters are
ordinary ones.  `Text.pieces` cuts a text at every character of a class and loses
nothing else; lines, fields and table cells are pieces.
-/

namespace PerfGate

/-- A text, character by character. -/
abbrev Text := List Char

namespace Text

/-! ### Character classes -/

/-- Space, tab, line feed, vertical tab, form feed and carriage return. -/
def isBlank (c : Char) : Bool :=
  c == ' ' || c == '\t' || c == '\n' || c == '\x0b' || c == '\x0c' || c == '\r'

/-- Space and tab, which separate the fields of a line. -/
def isGap (c : Char) : Bool := c == ' ' || c == '\t'

/-- The digits `0` to `9`. -/
def isDigit (c : Char) : Bool := '0' ≤ c && c ≤ '9'

/-! ### Cutting at the ends -/

/-- The text without blanks at its start. -/
def trimStart (t : Text) : Text := t.dropWhile isBlank

/-- The text without blanks at its end. -/
def trimEnd (t : Text) : Text := (t.reverse.dropWhile isBlank).reverse

/-- The text without blanks at either end. -/
def trim (t : Text) : Text := trimEnd (trimStart t)

/-- The text before the first NUL, which is all that a NUL-terminated reader sees. -/
def untilNul (t : Text) : Text := t.takeWhile (· != '\x00')

/-! ### Characters one by one -/

/-- The text without the characters of `cs`. -/
def strip (cs t : Text) : Text := t.filter fun c => !cs.contains c

/-- The text with the ASCII letters in lower case. -/
def lower (t : Text) : Text := t.map Char.toLower

/-! ### Parts -/

/-- The text behind `front`, if the text starts with it. -/
def after? : (front t : Text) → Option Text
  | [], t => some t
  | _ :: _, [] => none
  | a :: front, c :: t => if a == c then after? front t else none

/-- Whether the text starts with `front`. -/
def startsWith (front t : Text) : Bool := (after? front t).isSome

/-- Whether the text ends with `back`. -/
def endsWith (back t : Text) : Bool := startsWith back.reverse t.reverse

/-- The text behind the first occurrence of `needle`. -/
def behind? (needle : Text) : Text → Option Text
  | [] => after? needle []
  | c :: t =>
    match after? needle (c :: t) with
    | some rest => some rest
    | none => behind? needle t

/-- Whether `needle` occurs in the text. -/
def occursIn (needle t : Text) : Bool := (behind? needle t).isSome

/-- The parts before and behind the first character `sep`. -/
def splitFirst? (sep : Char) : Text → Option (Text × Text)
  | [] => none
  | c :: t =>
    if c == sep then some ([], t)
    else (splitFirst? sep t).map fun (a, b) => (c :: a, b)

/-- The part behind the last character `sep`. -/
def behindLast? (sep : Char) : Text → Option Text
  | [] => none
  | c :: t =>
    match behindLast? sep t with
    | some rest => some rest
    | none => if c == sep then some t else none

/-- `c` put in front of the first text of a list. -/
def consFirst (c : Char) : List Text → List Text
  | [] => [[c]]
  | t :: ts => (c :: t) :: ts

/-- The pieces between the characters of the class `p`: one more than there are such
characters. -/
def pieces (p : Char → Bool) : Text → List Text
  | [] => [[]]
  | c :: t => if p c then [] :: pieces p t else consFirst c (pieces p t)

/-- The pieces in order with `sep` between each two. -/
def join (sep : Text) : List Text → Text
  | [] => []
  | [t] => t
  | t :: ts => t ++ sep ++ join sep ts

/-! ### Lines and fields -/

/-- The line without a carriage return at its end; of several, one goes. -/
def dropReturn (t : Text) : Text :=
  if t.getLast? == some '\r' then t.dropLast else t

/-- The pieces between line feeds; a line feed at the very end starts no further piece. -/
def rawLines (t : Text) : List Text :=
  let ps := pieces (· == '\n') t
  if ps.getLast? == some [] then ps.dropLast else ps

/-- The lines of the text, each without a carriage return at its end. -/
def lines (t : Text) : List Text := (rawLines t).map dropReturn

/-- Each line followed by a line feed. -/
def unlines (ls : List Text) : Text := ls.flatMap (· ++ ['\n'])

/-- The fields of a line: its longest runs without space or tab. -/
def fields (t : Text) : List Text := (pieces isGap t).filter (!·.isEmpty)

/-- The words of a text: its longest runs without a blank. -/
def words (t : Text) : List Text := (pieces isBlank t).filter (!·.isEmpty)

/-! ### Small facts -/

@[simp] theorem pieces_nil (p : Char → Bool) :
  pieces p [] = [[]]
  := rfl

theorem consFirst_ne_nil (c : Char) (ts : List Text) :
  consFirst c ts ≠ []
  := by
  cases ts <;> simp [consFirst]

theorem pieces_ne_nil (p : Char → Bool) (t : Text) :
  pieces p t ≠ []
  := by
  cases t with
  | nil => simp
  | cons c t =>
    rw [pieces]
    split
    · simp
    · exact consFirst_ne_nil c _

theorem after?_append (front t : Text) :
  after? front (front ++ t) = some t
  := by
  induction front with
  | nil => rfl
  | cons a front ih => simp [after?, ih]

theorem eq_append_of_after? {front t rest : Text} (h : after? front t = some rest) :
  t = front ++ rest
  := by
  induction front generalizing t with
  | nil => simpa [after?] using h
  | cons a front ih =>
    cases t with
    | nil => simp [after?] at h
    | cons c t =>
      simp only [after?] at h
      split at h
      · rename_i hac
        rw [ih h, beq_iff_eq.1 hac]
        rfl
      · simp at h

end Text

end PerfGate
