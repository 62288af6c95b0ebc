import PerfGate.Numeral

/-!
# Backend statistics

The backend simulator counts the requests it served over each transport and shows the
counts as the fields `h1` and `h2` of a JSON object.  The reader looks for the quoted name
of a field and takes the number behind the colon.
-/

namespace PerfGate

/-- Requests served over each transport. -/
structure TransportCounts where
  /-- Over HTTP/1.1. -/
  h1 : Int
  /-- Over HTTP/2. -/
  h2 : Int
deriving DecidableEq

namespace TransportCounts

/-- Space, tab and line feed, which may stand on both sides of the colon. -/
def isSpace (c : Char) : Bool := c == ' ' || c == '\t' || c == '\n'

/-- The number behind the first occurrence of a quoted name. -/
def field? (name json : Text) : Option Int := do
  let rest ← Text.behind? ('"' :: name ++ ['"']) json
  match rest.dropWhile isSpace with
  | ':' :: rest =>
    let digits := (rest.dropWhile isSpace).takeWhile Text.isDigit
    if digits.isEmpty then none else Numeral.integer? digits
  | _ => none

/-- The statistics that a text shows. -/
def ofText? (json : Text) : Option TransportCounts := do
  let h1 ← field? "h1".toList json
  let h2 ← field? "h2".toList json
  some { h1, h2 }

/-- Whether all traffic went over HTTP/2, and there was some. -/
def isPure (s : TransportCounts) : Bool := 0 < s.h2 && s.h1 == 0

end TransportCounts

end PerfGate
