import PerfGate.Text

/-!
# Commands of the shell

A command is made of words, and a word is made of parts: text that stands for itself, and
parts that are replaced when the command runs.  Each part knows whether it stood in quotes,
since only what did not is cut into fields or taken for a pattern.
-/

namespace PerfGate

namespace Shell

/-- A part of a word. -/
inductive Part where
  /-- Text that stands for itself. -/
  | literal (t : Text) (quoted : Bool)
  /-- A parameter, with an operator and its operand if there are any. -/
  | parameter (name operator operand : Text) (quoted : Bool)
  /-- The output of a script. -/
  | output (script : Text) (quoted : Bool)
  /-- The value of an arithmetic expression. -/
  | arithmetic (expression : Text) (quoted : Bool)
  /-- A value that a part was replaced by. -/
  | value (t : Text) (quoted : Bool)
deriving DecidableEq, Inhabited

/-- A word. -/
abbrev Word := List Part

/-- Where a redirection leads. -/
inductive Direction where
  /-- From a file. -/
  | from
  /-- To a file, which is emptied first. -/
  | to
  /-- To the end of a file. -/
  | behind
  /-- To where another channel leads. -/
  | like
  /-- From a text in the script. -/
  | here
deriving DecidableEq

/-- A redirection of a channel. -/
structure Redirect where
  /-- The channel. -/
  channel : Nat
  /-- Where it leads. -/
  direction : Direction
  /-- The file, the other channel, or the text. -/
  target : Word
deriving DecidableEq

/-- A command without further commands in it. -/
structure Simple where
  /-- Its line in the script. -/
  line : Nat := 1
  /-- Assignments in front of the words. -/
  assignments : List (Text × Word) := []
  /-- The name and the arguments. -/
  words : List Word := []
  /-- Redirections, in order. -/
  redirects : List Redirect := []
deriving DecidableEq

/-- A command. -/
inductive Cmd where
  /-- A command that does nothing. -/
  | skip
  | simple (s : Simple)
  /-- Commands whose outputs are the inputs of the next ones. -/
  | pipeline (cs : List Cmd)
  | negation (c : Cmd)
  /-- The second one runs if the first one succeeds. -/
  | both (a b : Cmd)
  /-- The second one runs if the first one fails. -/
  | either (a b : Cmd)
  | sequence (a b : Cmd)
  | background (c : Cmd)
  /-- A command in a process of its own. -/
  | subshell (c : Cmd)
  | redirected (c : Cmd) (redirects : List Redirect)
  | branch (condition yes no : Cmd)
  /-- A loop that goes on while the condition succeeds, or until it does. -/
  | loop (stopsOn : Bool) (condition body : Cmd)
  /-- A loop over words, or over the arguments. -/
  | each (name : Text) (words : Option (List Word)) (body : Cmd)
  | select (word : Word) (arms : List (List Word × Cmd))
  | define (name : Text) (body : Cmd)
deriving Inhabited

/-! ### Names -/

/-- Whether a character may start a name. -/
def startsName (c : Char) : Bool := c.isAlpha || c == '_'

/-- Whether a character may stand in a name. -/
def isNameChar (c : Char) : Bool := startsName c || Text.isDigit c

/-- Whether a text is a name. -/
def isName (t : Text) : Bool := t.head?.any startsName && t.all isNameChar

end Shell

end PerfGate
