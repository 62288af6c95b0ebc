import PerfGate.Binary64.Fixed
import PerfGate.Error
import PerfGate.Latency
import PerfGate.Policy

/-!
# Configuration

All settings of a gate, their defaults, the constraints among them, and the lines that show
the settings in force.
-/

namespace PerfGate

/-- A processor core for each of the cooperating processes, if one is chosen. -/
structure CoreChoice where
  /-- The core of the service under test. -/
  subject : Option Int := none
  /-- The core of the backend simulator. -/
  backend : Option Int := none
  /-- The core of the load generator. -/
  loadGenerator : Option Int := none
deriving DecidableEq

/-- The decision parameters of a gate without settings of its own: seven passing rounds of
nine. -/
def Policy.standard : Policy Binary64 where
  plannedRounds := 9
  minPassRatio := .ofFraction 7778 10000
  minPassRounds := none
  maxVariation := .ofInt 5
  maxExtraRounds := 3
  duration := "10s".toList
  memoryLimitKb := 10240

/-- The settings of a gate. -/
structure Config where
  /-- The decision parameters. -/
  policy : Policy Binary64 := Policy.standard
  /-- The recorded baseline. -/
  baselineFile : Text := "artifacts/perf/baseline_single_core_1x8_pinned.md".toList
  /-- The directory of the reports. -/
  outDir : Text := "artifacts/perf".toList
  /-- What the report names start with. -/
  reportStem : Text := "zero_regression_gate".toList
  /-- Whether the scenarios with remapped model names are run too. -/
  includeAliasRemap : Bool := false
  /-- Whether cores that are not chosen are filled in. -/
  autoPinCores : Bool := false
  /-- The chosen cores. -/
  pins : CoreChoice := {}
  /-- The program under test. -/
  subjectBin : Text := "target/release/toolify".toList
  /-- The process name of the program under test. -/
  subjectName : Text := "toolify".toList
  /-- The configuration file that the program under test reads. -/
  subjectConfig : Text := "config.yaml".toList
  /-- The backend simulator. -/
  simulatorBin : Text := "target/release/mock_openai_upstream".toList
  /-- The load generator. -/
  wrkBin : Text := "wrk".toList
  /-- The probe client. -/
  curlBin : Text := "curl".toList
  /-- Threads of the load generator. -/
  wrkThreads : Int := 1
  /-- Connections of the load generator. -/
  connections : Int := 8
  /-- Worker threads of the program under test. -/
  workerThreads : Int := 1
  /-- The request timeout of the load generator. -/
  wrkTimeout : Text := "2s".toList
  /-- The number at which the program under test listens. -/
  proxyPort : Int := 18080
  /-- The number at which the backend simulator listens. -/
  backendPort : Int := 19001
  /-- How long a service may take to come up, in seconds. -/
  startupTimeoutS : Int := 10
  /-- Requests sent before the measured phase. -/
  warmupRequests : Int := 200
  /-- The connect timeout of such a request, in seconds. -/
  warmupConnectTimeoutS : Int := 2
  /-- The time limit of such a request, in seconds. -/
  warmupMaxTimeS : Int := 2
  /-- The transport between the program under test and the simulator: `h2c` or `auto`. -/
  backendTransport : Text := "h2c".toList
  /-- Whether traffic over a fallback transport is an error. -/
  requireBackendH2 : Bool := true
  /-- What the simulator answers: `text`, `code`, `full` or `error`. -/
  mockScenario : Text := "text".toList
  /-- The lock that one invocation at a time holds. -/
  lockFile : Text := "/tmp/quorum_gate.lock".toList
deriving DecidableEq

namespace Config

/-! ### Constraints -/

/-- The transports there are. -/
def transports : List Text := ["h2c".toList, "auto".toList]

/-- The answers that the simulator can give. -/
def mockScenarios : List Text := ["text".toList, "code".toList, "full".toList, "error".toList]

/-- The constraints on the settings, in the order in which they are checked, each with the
error of its violation. -/
def constraints (c : Config) : List (Bool × SettingError) :=
  let p := c.policy
  [ (1 ≤ p.plannedRounds, .tooFewRounds),
    (Scalar.lt (.zero false) p.minPassRatio && Scalar.le p.minPassRatio (.ofInt 1),
      .ratioOutOfRange),
    (p.minPassRounds.all (0 ≤ ·), .negativePassRounds),
    (!Scalar.lt p.maxVariation (.zero false), .negativeVariation),
    (0 ≤ p.maxExtraRounds, .negativeExtraRounds),
    ((Duration.seconds? p.duration).isSome, .badDuration p.duration),
    (0 < p.memoryLimitKb, .memoryLimitNotPositive),
    (transports.contains c.backendTransport, .unknownTransport c.backendTransport),
    (mockScenarios.contains c.mockScenario, .unknownMockScenario c.mockScenario),
    (c.workerThreads == 1 && c.wrkThreads == 1 && c.connections == 8, .profileChanged),
    (0 < c.startupTimeoutS, .startupTimeoutNotPositive),
    (0 ≤ c.warmupRequests, .negativeWarmup) ]

/-- The first violated constraint. -/
def violation? (c : Config) : Option SettingError :=
  (c.constraints.find? (!·.1)).map (·.2)

/-- Succeeds if all constraints hold, and fails with the first violation. -/
def validate (c : Config) : Except SettingError Unit :=
  match c.violation? with
  | none => .ok ()
  | some e => .error e

/-! ### Cores -/

/-- The cores in force on a host with `online` processors: with automatic pinning and two
processors at least, those not chosen are 0 for the subject, 1 for the backend and 2 for
the load generator, which falls back to 0 on two processors. -/
def coresInForce (c : Config) (online : Int) : CoreChoice :=
  if !c.autoPinCores || online < 2 then c.pins
  else
    { subject := some (c.pins.subject.getD 0)
      backend := some (c.pins.backend.getD 1)
      loadGenerator := some (c.pins.loadGenerator.getD (if 3 ≤ online then 2 else 0)) }

/-! ### Display -/

/-- The load shape: threads, then connections. -/
def shape (c : Config) : Text :=
  Decimal.signed c.wrkThreads ++ 'x' :: Decimal.signed c.connections

/-- The name of the load profile. -/
def profileLabel (c : Config) : Text := "single_core_".toList ++ c.shape

/-- A flag as a digit. -/
def flagDigit (b : Bool) : Text := if b then ['1'] else ['0']

/-- The two lines that show the settings in force. -/
def shown (c : Config) : Text :=
  let p := c.policy
  let least := match p.minPassRounds with
    | some n => Decimal.signed n
    | none => ['-']
  "[gate] profile=".toList ++ c.profileLabel ++
    " rounds=".toList ++ Decimal.signed p.plannedRounds ++
    " extra<=".toList ++ Decimal.signed p.maxExtraRounds ++
    " duration=".toList ++ Text.untilNul p.duration ++
    " cv<=".toList ++ p.maxVariation.fixed 2 ++
    "% ratio=".toList ++ p.minPassRatio.fixed 4 ++
    " min_pass=".toList ++ least ++
    " rss_limit_kb=".toList ++ Decimal.signed p.memoryLimitKb ++ ['\n'] ++
    "[gate] baseline=".toList ++ Text.untilNul c.baselineFile ++
    " out_dir=".toList ++ Text.untilNul c.outDir ++
    " alias_remap=".toList ++ flagDigit c.includeAliasRemap ++
    " auto_pin=".toList ++ flagDigit c.autoPinCores ++ ['\n']

end Config

end PerfGate
