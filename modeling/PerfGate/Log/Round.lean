import PerfGate.Error
import PerfGate.Log.Line

/-!
# Rounds from round logs

The metrics of a round are read back from its log.  Lines of other scenarios and all other
lines are passed over; of the lines of a scenario the last of each kind counts, but one
that cannot be read is an error even if a later line would replace it.
-/

namespace PerfGate

/-- The load and resource lines read so far. -/
structure RoundLines where
  /-- The last load line of each scenario. -/
  loads : Table TrafficLine := []
  /-- The last resource line of each scenario. -/
  resources : Table UsageLine := []

namespace RoundLines

/-- What marks a load line. -/
def loadMark : Text := "wrk_rps=".toList

/-- What marks a resource line. -/
def resourceMark : Text := "cpu_pct=".toList

/-- The scenario that a line of the log is about: its first field, if another follows. -/
def subject? (line : Text) : Option ScenarioName :=
  match Text.fields line with
  | name :: _ :: _ => some name
  | _ => none

/-- Takes in one line of the log. -/
def enter (wanted : List ScenarioName) (r : RoundLines) (line : Text) :
    Except RoundError RoundLines :=
  match (subject? line).filter wanted.contains with
  | none => .ok r
  | some name =>
    if Text.occursIn loadMark line then
      match TrafficLine.read? line with
      | some l => .ok { r with loads := Table.set name l r.loads }
      | none => .error (.loadUnreadable name line)
    else if Text.occursIn resourceMark line then
      match UsageLine.read? line with
      | some u => .ok { r with resources := Table.set name u r.resources }
      | none => .error (.resourcesUnreadable name line)
    else .ok r

/-- The metrics of a scenario, which needs a line of each kind. -/
def metrics (r : RoundLines) (name : ScenarioName) : Except RoundError (Metrics Binary64) :=
  match Table.get? name r.loads, Table.get? name r.resources with
  | none, _ => .error (.loadMissing name)
  | some _, none => .error (.resourcesMissing name)
  | some l, some u => .ok { rps := l.rps, p99 := l.p99, cpu := u.cpu, rss := .ofInt u.rssKb }

end RoundLines

/-- The round that a log records for the wanted scenarios. -/
def Round.ofText (t : Text) (wanted : List ScenarioName) : Except RoundError (Round Binary64) := do
  let r ← (Text.lines t).foldlM (RoundLines.enter wanted) {}
  wanted.foldlM (fun round name => do pure (Table.set name (← r.metrics name) round)) []

end PerfGate
