import PerfGate.Binary64.Fixed
import PerfGate.Latency
import PerfGate.Metrics
import PerfGate.Log.Summary

/-!
# Lines of a round log

A round leaves two lines for each scenario: a load line with the request count, the rate
and the latencies, and a resource line with processor time and memory.  A line is the name
of the scenario and settings `key=value`, in any order; of two settings with one key the
last counts, and a field that is no setting spoils the line.
-/

namespace PerfGate

/-- A load line. -/
structure TrafficLine where
  /-- The scenario. -/
  scenario : ScenarioName
  /-- The number of requests. -/
  requests : Nat
  /-- Requests per second. -/
  rps : Binary64
  /-- The 99th percentile of the latency, in microseconds. -/
  p99 : Binary64
  /-- The average latency in microseconds, if it is known. -/
  latencyAvg : Option Binary64
deriving DecidableEq

/-- A resource line. -/
structure UsageLine where
  /-- The scenario. -/
  scenario : ScenarioName
  /-- Processor time in percent. -/
  cpu : Binary64
  /-- Peak resident memory in kilobytes. -/
  rssKb : Nat
deriving DecidableEq

namespace RoundLog

/-! ### Settings -/

/-- The key and the value of a field, cut at its first equals sign; the key is not empty. -/
def setting? (field : Text) : Option (Text × Text) :=
  (Text.splitFirst? '=' field).filter fun (key, _) => !key.isEmpty

/-- The scenario and the settings of a line, at least one. -/
def settings? (line : Text) : Option (ScenarioName × List (Text × Text)) :=
  match Text.fields line with
  | scenario :: field :: fields => do
    let settings ← (field :: fields).mapM setting?
    some (scenario, settings)
  | _ => none

/-- The last value of a key. -/
def lastValue? (key : Text) (settings : List (Text × Text)) : Option Text :=
  settings.reverse.lookup key

end RoundLog

namespace TrafficLine

/-- What stands for a latency that is not known. -/
def unknownLatency : Text := "n/a".toList

/-- The longest rate that is written. -/
def rateWidth : Nat := 63

/-- The load line of a summary; a missing number is written as zero, a missing latency as
`n/a`. -/
def write (scenario : ScenarioName) (s : LoadSummary) : Text :=
  let rate := match s.rps with
    | some x => (x.fixed 2).take rateWidth
    | none => ['0']
  scenario ++ " wrk_requests=".toList ++ Decimal.signed (s.requests.getD 0) ++
    " wrk_rps=".toList ++ rate ++
    " wrk_p99=".toList ++ s.p99.getD unknownLatency ++
    " wrk_latency_avg=".toList ++ s.latencyAvg.getD unknownLatency

/-- The average latency that a value of the line stands for; `n/a` stands for none. -/
def readAverage? (value : Text) : Option (Option Binary64) :=
  if value == unknownLatency then some none else (Latency.microseconds? value).map some

/-- The load line that a text is. -/
def read? (line : Text) : Option TrafficLine := do
  let (scenario, settings) ← RoundLog.settings? line
  let requests ← RoundLog.lastValue? "wrk_requests".toList settings
  let rps ← RoundLog.lastValue? "wrk_rps".toList settings
  let p99 ← RoundLog.lastValue? "wrk_p99".toList settings
  let average ← RoundLog.lastValue? "wrk_latency_avg".toList settings
  let requests ← Numeral.natural? requests
  let rps ← Numeral.unsigned? rps
  let p99 ← Latency.microseconds? p99
  let latencyAvg ← readAverage? average
  some { scenario, requests, rps, p99, latencyAvg }

end TrafficLine

namespace UsageLine

/-- The longest text that is written behind the scenario. -/
def usageWidth : Nat := 95

/-- The resource line of measured values. -/
def write (scenario : ScenarioName) (cpu : Binary64) (rssKb : Int) : Text :=
  scenario ++
    (" cpu_pct=".toList ++ cpu.fixed 2 ++ " peak_rss_kb=".toList ++
      Decimal.signed rssKb).take usageWidth

/-- The resource line that a text is. -/
def read? (line : Text) : Option UsageLine := do
  let (scenario, settings) ← RoundLog.settings? line
  let cpu ← RoundLog.lastValue? "cpu_pct".toList settings
  let rss ← RoundLog.lastValue? "peak_rss_kb".toList settings
  let cpu ← Numeral.unsigned? cpu
  let rssKb ← Numeral.natural? rss
  some { scenario, cpu, rssKb }

end UsageLine

end PerfGate
