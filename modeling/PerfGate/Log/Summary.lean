import PerfGate.Numeral

/-!
# The summary of a load run

The load generator ends with a summary for people.  `LoadSummary.ofText` picks out of it the
rate, the number of requests and the 99th percentile, each from its last line, and the
average latency from its first line.
-/

namespace PerfGate

/-- What the summary of a load run says. -/
structure LoadSummary where
  /-- The number of requests. -/
  requests : Option Int := none
  /-- Requests per second. -/
  rps : Option Binary64 := none
  /-- The 99th percentile of the latency, as written. -/
  p99 : Option Text := none
  /-- The average latency, as written. -/
  latencyAvg : Option Text := none
deriving DecidableEq

namespace LoadSummary

/-- What is known after one more line, given as its fields. -/
def readFields (s : LoadSummary) : List Text → LoadSummary
  | first :: second :: rest =>
    if first == "Requests/sec:".toList then { s with rps := Numeral.unsigned? second }
    else if second == "requests".toList && rest.head? == some "in".toList then
      { s with requests := (Numeral.natural? first).map Int.ofNat }
    else if first == "99%".toList then { s with p99 := some second }
    else if first == "Latency".toList && s.latencyAvg.isNone then
      { s with latencyAvg := some second }
    else s
  | _ => s

/-- The summary that a text holds. -/
def ofText (t : Text) : LoadSummary :=
  (Text.lines t).foldl (fun s l => s.readFields (Text.fields l)) {}

end LoadSummary

end PerfGate
