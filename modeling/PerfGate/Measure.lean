import PerfGate.Latency
import PerfGate.LoadRun
import PerfGate.Probe
import PerfGate.Process.Owner
import PerfGate.Report
import PerfGate.Log.Round
import PerfGate.Rounds
import PerfGate.Scenario
import PerfGate.Scoped
import PerfGate.TransportCounts

/-!
# Measured rounds

A round starts the services of each scenario in turn, waits until they answer, warms them
up, and watches the service under test while the load generator runs.  What it measured is
kept as two lines of a round log for each scenario, and read back from there.

The backend simulator is started before the service under test and ended behind it, however
the measurement ended.
-/

namespace PerfGate

/-! ### Logs of services -/

/-- How many lines of a log are shown. -/
def shownLogLines : Nat := 120

/-- The first lines of a text, each with a line feed behind it. -/
def headLines (count : Int) (t : Text) : Text := Text.unlines ((Text.rawLines t).take count.toNat)

variable {m : Type → Type} [Monad m]

/-- Shows the first lines of the log of a service. -/
def showLogHead [Console m] [Files m] (label log : Text) : m Unit := do
  let label := Text.untilNul label
  warn ("[ERROR] ---- ".toList ++ label ++ " log (".toList ++ Text.untilNul log ++
    ", first 120 lines) ----\n".toList)
  warn (Text.untilNul (headLines shownLogLines (← readFile log)))
  warn ("[ERROR] ---- end of ".toList ++ label ++ " log ----\n".toList)

/-- Ends with an error, which is shown with the log of a service. -/
def failShowingLog [MonadExceptOf Failure m] [Console m] [Files m] {α : Type} (e : RunError)
    (label log : Text) : m α := do
  warn ("[ERROR] ".toList ++ e.message ++ ['\n'])
  showLogHead label log
  fail e

/-! ### The bench -/

/-- What the rounds of a run are measured with. -/
structure Bench (m : Type → Type) where
  /-- The settings. -/
  config : Config
  /-- The scenarios of a round. -/
  scenarios : List Scenario
  /-- The cores in force. -/
  pins : CoreChoice
  /-- The configuration of the service under test. -/
  subjectConfig : KeptFile
  /-- Where logs are kept. -/
  workDir : Text
  /-- The load generator. -/
  load : LoadDriver m

namespace Bench

/-- The log of the backend simulator. -/
def backendLog (b : Bench m) : Text := Path.join b.workDir "upstream.log".toList

/-- The log of the service under test. -/
def subjectLog (b : Bench m) : Text := Path.join b.workDir "subject.log".toList

/-- The name of the backend simulator in messages. -/
def backendLabel : Text := "upstream".toList

/-- How long a service may take to come up, in milliseconds. -/
def startupMs (b : Bench m) : Int := b.config.startupTimeoutS * 1000

/-- The start of the addresses that the machine serves at a port. -/
def localUrl (port : Int) : Text :=
  "http://".toList ++ loopback ++ ':' :: Decimal.signed port

/-- The address that requests are posted to. -/
def requestUrl (b : Bench m) : Text :=
  localUrl b.config.proxyPort ++ "/v1/chat/completions".toList

/-- The address of the statistics of the backend simulator. -/
def statsUrl (b : Bench m) : Text := localUrl b.config.backendPort ++ "/_mock/stats".toList

/-- The transport that is spoken from the first byte. -/
def priorHttp2 : Text := "h2c".toList

/-- The time limit of the fetch of statistics, in seconds. -/
def statsMaxTimeS : Int := 2

/-- How often the service is read while the load runs, in milliseconds. -/
def readingEveryMs : Nat := 20

/-- Clock ticks in a second. -/
def tickRate : Int := 100

/-- The backend simulator of a scenario. -/
def backend (b : Bench m) (s : Scenario) : Service where
  argv := [b.config.simulatorBin]
  overrides := s.backendVariables b.config
  log := b.backendLog
  core := b.pins.backend

/-- The service under test. -/
def subject (b : Bench m) : Service where
  argv := [b.config.subjectBin]
  log := b.subjectLog
  core := b.pins.subject

/-- The load run of a scenario. -/
def request (b : Bench m) (s : Scenario) : LoadPlan where
  url := b.requestUrl
  body := s.payload
  duration := b.config.policy.duration
  threads := b.config.wrkThreads
  connections := b.config.connections
  timeout := b.config.wrkTimeout
  seconds := (Duration.seconds? b.config.policy.duration).getD (.zero false)
  core := b.pins.loadGenerator

variable [MonadExceptOf Failure m] [Host m]

/-! ### Phases -/

/-- Waits until the service under test answers requests, and warms it up. -/
def prepare (b : Bench m) (s : Scenario) : m Unit := do
  let c := b.config
  if !(← Probe.untilReady c.curlBin b.requestUrl s.payload b.startupMs) then
    failShowingLog (RoundError.endpointNotReady c.subjectName c.startupTimeoutS) c.subjectName
      b.subjectLog
  let answered ← Probe.warmUp c.curlBin b.requestUrl s.payload c.warmupConnectTimeoutS
    c.warmupMaxTimeS c.warmupRequests.toNat 0
  say ("[round] ".toList ++ Text.untilNul s.id ++ " warm-up answered ".toList ++
    Report.outOf answered c.warmupRequests ++ ['\n'])

/-- Runs `body` while readings of a process are taken, and tells what the process used. -/
def watching {α : Type} (pid : Pid) (body : m α) : m (α × Usage) := do
  let sampler := Sampler.start {} (← readProcess pid)
  let startMs ← now
  if !(← startReadings pid readingEveryMs) then throw (Failure.crash Errno.again.message)
  let a ← try body catch e => do
    let _ ← stopReadings
    throw (e : Failure)
  let stopMs ← now
  let sampler := (← stopReadings).foldl Sampler.poll sampler
  let seconds := Binary64.ofFraction (stopMs - startMs) 1000
  pure (a, (sampler.stop (← readProcess pid) tickRate seconds).1)

/-- Checks that the requests of the measured phase all went over HTTP/2. -/
def checkPurity (b : Bench m) (s : Scenario) : m Unit := do
  let c := b.config
  let body ← Probe.fetch? c.curlBin b.statsUrl (c.backendTransport == priorHttp2) statsMaxTimeS
  match body.bind TransportCounts.ofText? with
  | none =>
    failShowingLog (RoundError.statsUnreadable s.id (body.getD [])) backendLabel b.backendLog
  | some stats =>
    if !stats.isPure then
      failShowingLog (RunError.impureTraffic s.id stats.h2 stats.h1) backendLabel b.backendLog
    say (Text.untilNul s.id ++ " upstream_proto_h2_ok h2=".toList ++ Decimal.signed stats.h2 ++
      " h1=".toList ++ Decimal.signed stats.h1 ++ ['\n'])

/-- Measures the service under test, whose backend is up. -/
def measureSubject (b : Bench m) (s : Scenario) : m (Text × Usage) := do
  let c := b.config
  b.subjectConfig.write (s.subjectConfig c)
  Owner.hold b.subject fun subject => do
    if !(← awaitPort loopback c.proxyPort b.startupMs) then
      failShowingLog (RoundError.subjectNotReady c.subjectName c.startupTimeoutS) c.subjectName
        b.subjectLog
    b.prepare s
    let resolver : Resolver := { subject := c.subjectName }
    let pid := resolver.resolve (← processTree) (subject.child.getD (-1))
    let (output, usage) ← watching pid (b.load (b.request s))
    if c.requireBackendH2 then b.checkPurity s
    pure (output, usage)

/-- Measures a scenario with both services. -/
def measure (b : Bench m) (s : Scenario) : m (Text × Usage) :=
  Owner.hold (b.backend s) fun _ => do
    let c := b.config
    if !(← awaitPort loopback c.backendPort b.startupMs) then
      failShowingLog (RoundError.backendNotReady c.startupTimeoutS) backendLabel b.backendLog
    b.measureSubject s

/-! ### Rounds -/

omit [MonadExceptOf Failure m] [Host m] [Monad m] in
/-- The two lines of the round log on a scenario. -/
def logLines (s : Scenario) (output : Text) (usage : Usage) : Except RoundError (List Text) :=
  let summary := LoadSummary.ofText output
  if summary.rps.isNone || summary.requests.isNone then .error (.totalsMissing s.id)
  else .ok [TrafficLine.write s.id summary, UsageLine.write s.id usage.cpu usage.rssKb]

/-- Runs a scenario and tells its part of the round log. -/
def scenarioLog (b : Bench m) (s : Scenario) : m Text := do
  say ("[round] ".toList ++ Text.untilNul s.id ++ ['\n'])
  let (output, usage) ← b.measure s
  let lines ← ofExcept .round (logLines s output usage)
  say (Text.unlines (lines.map Text.untilNul))
  pure (Text.unlines lines)

/-- Runs some scenarios and tells the round log. -/
def roundLog (b : Bench m) : List Scenario → m Text
  | [] => pure []
  | s :: rest => do
    checkInterruption
    let log ← b.scenarioLog s
    pure (log ++ (← roundLog b rest))

/-- The file with the log of a round. -/
def roundLogFile (b : Bench m) (index : Int) : Text :=
  Path.join b.workDir ("round_".toList ++ Decimal.signed index ++ ".log".toList)

/-- Runs a round. -/
def measureRound (b : Bench m) : RoundProducer m := fun index _ => do
  let log ← b.roundLog b.scenarios
  let file := b.roundLogFile index
  if !(← writeFile file log) then
    warn ("[WARN] could not keep round log ".toList ++ Text.untilNul file ++ ['\n'])
  ofExcept .round (Round.ofText log (b.scenarios.map (·.id)))

end Bench

end PerfGate
