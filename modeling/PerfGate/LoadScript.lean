import PerfGate.Binary64.Basic
import PerfGate.Text.Decimal

/-!
# The script and the command line of the load generator

The load generator sends the request that a Lua script sets up.  The body is a string
literal in single quotes, so backslashes and single quotes are escaped.
-/

namespace PerfGate

/-- One load run. -/
structure LoadPlan where
  /-- Where requests go. -/
  url : Text := []
  /-- The body of each request. -/
  body : Text := []
  /-- The duration as the load generator takes it. -/
  duration : Text := []
  /-- Threads. -/
  threads : Int := 1
  /-- Connections. -/
  connections : Int := 8
  /-- The timeout of a request. -/
  timeout : Text := "2s".toList
  /-- The duration in seconds. -/
  seconds : Binary64 := .zero false
  /-- The core that the load generator is bound to. -/
  core : Option Int := none
deriving DecidableEq

namespace LoadScript

/-- Whether a character needs a backslash in a literal. -/
def needsEscape (c : Char) : Bool := c == '\\' || c == '\''

/-- A literal in single quotes. -/
def quoted (t : Text) : Text :=
  '\'' :: t.flatMap (fun c => if needsEscape c then ['\\', c] else [c]) ++ ['\'']

/-- The script that posts a body. -/
def render (body : Text) : Text :=
  "wrk.method = \"POST\"\n".toList ++
    "wrk.headers[\"Authorization\"] = \"Bearer sk-client\"\n".toList ++
    "wrk.headers[\"Content-Type\"] = \"application/json\"\n".toList ++
    "wrk.body = ".toList ++ quoted body ++ ['\n']

/-- The command that runs a script. -/
def command (program script : Text) (r : LoadPlan) : List Text :=
  [ program,
    "-t".toList ++ Decimal.signed r.threads,
    "-c".toList ++ Decimal.signed r.connections,
    "-d".toList ++ r.duration,
    "--timeout".toList,
    r.timeout,
    "--latency".toList,
    "-s".toList,
    script,
    r.url ]

end LoadScript

end PerfGate
