import PerfGate.Text.Decimal

/-!
# Transcripts

What two runs of one invocation write differs in the numbers of ports, the names of private
directories, the stamps of reports, the lines that say when and where a run was, and what a
process happened to use.  A rule finds such a thing at the start of a text and says what
stands for it; a transcript is a text with the rules done at every place.
-/

namespace PerfGate

namespace Transcript

/-- A rule: what is written in the stead of the start of a text, and the rest of the text. -/
abbrev Rule := Text → Option (Text × Text)

namespace Rule

/-- The text with the rule done wherever it holds, from left to right. -/
def within (r : Rule) : (steps : Nat) → Text → Text
  | 0, t => t
  | _ + 1, [] => []
  | n + 1, c :: cs =>
    match r (c :: cs) with
    | some (new, rest) => new ++ r.within n rest
    | none => c :: r.within n cs

/-- The text with the rule done wherever it holds. -/
def everywhere (r : Rule) (t : Text) : Text := r.within t.length t

/-- The rule that a word stands for another. -/
def word (old new : Text) : Rule := fun t => (Text.after? old t).map (new, ·)

/-- The rule that holds behind a word, which stays. -/
def behind (lead : Text) (r : Rule) : Rule := fun t => do
  let (new, rest) ← r (← Text.after? lead t)
  pure (lead ++ new, rest)

/-- The rule that characters of a kind, at least one, have a word in their stead. -/
def run (p : Char → Bool) (new : Text) : Rule := fun t =>
  if (t.takeWhile p).isEmpty then none else some (new, t.dropWhile p)

/-- The rule that a positive numeral has a word in its stead. -/
def positive (new : Text) : Rule := fun t =>
  if Decimal.value (t.takeWhile Text.isDigit) = 0 then none
  else some (new, t.dropWhile Text.isDigit)

end Rule

/-- The rule for the number of a port. -/
def port (number : Nat) (name : Text) : Rule := .word (Decimal.digits number) name

/-- How many letters of the name of a private directory vary. -/
def variedLetters : Nat := 6

/-- The rule for the name of a private directory of the gate. -/
def privateName : Rule :=
  .behind "quorum_gate.".toList fun t =>
    let letters := t.take variedLetters
    if letters.length = variedLetters && letters.all Char.isAlphanum then
      some ("TMP".toList, t.drop variedLetters)
    else none

/-- The length of the stamp of a report. -/
def stampLength : Nat := 15

/-- Whether a text is the stamp of a report: eight digits, a low line, and six digits. -/
def isStamp (t : Text) : Bool :=
  t.length == stampLength && (t.take 8).all Text.isDigit && t[8]? == some '_' &&
    (t.drop 9).all Text.isDigit

/-- The rule for the stamp in the name of a report. -/
def reportStamp : Rule :=
  .behind ['_'] fun t =>
    if isStamp (t.take stampLength) && Text.startsWith ".md".toList (t.drop stampLength) then
      some ("STAMP".toList, t.drop stampLength)
    else none

/-- The text with a star in the stead of what follows some words at the starts of lines. -/
def starLines (leads : List Text) (t : Text) : Text :=
  let star (line : Text) : Text :=
    match leads.find? (Text.startsWith · line) with
    | some lead => lead ++ ['*']
    | none => line
  Text.join ['\n'] ((Text.pieces (· == '\n') t).map star)

/-- The text without the figures of a process. -/
def hideUsage (t : Text) : Text :=
  let isFigure (c : Char) : Bool := Text.isDigit c || c == '.'
  (Rule.behind "peak_rss_kb=".toList (.positive "POSITIVE".toList)).everywhere
    ((Rule.behind "cpu_pct=".toList (.run isFigure ['*'])).everywhere t)

/-- The text without the names and stamps that vary, and with a star in the stead of what
follows some words at the starts of lines. -/
def hideNames (leads : List Text) (t : Text) : Text :=
  starLines leads (reportStamp.everywhere (privateName.everywhere t))

end Transcript

end PerfGate
