import PerfGate.Machine.Utility.Options
import PerfGate.Machine.Utility.Regex

/-!
# Search for lines

The lines of some texts in which an expression occurs, or does not.
-/

namespace PerfGate

namespace Search

/-- The options that take a value. -/
def valued : Text := ['e', 'm']

/-- The expression that options ask for. -/
def expression (os : Options) (pattern : Text) : Regex :=
  let pattern := if os.has 'i' then Text.lower pattern else pattern
  let re := if os.has 'F' then Regex.ofLiteral pattern else Regex.ofText (os.has 'E') pattern
  if os.has 'x' then .then (.char Regex.lineStart) (.then re (.char Regex.lineEnd)) else re

/-- The lines of a text that are asked for, with their numbers. -/
def hits (os : Options) (re : Regex) (content : Text) : List (Nat × Text) :=
  let fold (t : Text) : Text := if os.has 'i' then Text.lower t else t
  let found := (Text.rawLines content).mapIdx (fun i l => (i + 1, l)) |>.filter fun (_, l) =>
    re.occursInLine (fold l) != os.has 'v'
  match os.value? 'm' with
  | some n => found.take (Decimal.value n)
  | none => found

/-- What is written about a text. -/
def report (os : Options) (re : Regex) (several : Bool) (s : Source) : Text :=
  let found := hits os re s.content
  let front := if several && !os.has 'h' || os.has 'H' then s.name ++ [':'] else []
  if os.has 'q' then []
  else if os.has 'l' then if found.isEmpty then [] else s.name ++ ['\n']
  else if os.has 'c' then front ++ Decimal.digits found.length ++ ['\n']
  else
    let shown (line : Text) : List Text :=
      if os.has 'o' then Regex.all re (line.length + 2) (Regex.framed line) else [line]
    Text.unlines (found.flatMap fun (i, line) =>
      (shown line).map fun t =>
        front ++ (if os.has 'n' then Decimal.digits i ++ [':'] else []) ++ t)

/-- What the search answers. -/
def reply (args : List Text) (sources : List Source) : Reply :=
  let (os, operands) := Options.ofArguments valued args
  let re := expression os ((os.value? 'e').getD (operands.headD []))
  { output := sources.flatMap (report os re (1 < sources.length))
    status := if sources.all fun s => (hits os re s.content).isEmpty then 1 else 0 }

end Search

end PerfGate
