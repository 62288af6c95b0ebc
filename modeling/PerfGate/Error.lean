import PerfGate.Text.Decimal

/-!
# Errors

What can end an invocation early, as causes.  `RunError.kind` sorts the causes into three
kinds, each with an exit code of its own, and `RunError.message` words them.  A regression
is an outcome and no error.
-/

namespace PerfGate

/-! ### Refusals of the host -/

/-- Why the host refused an operation. -/
inductive Errno where
  | notFound
  | denied
  | exists
  | notDirectory
  | isDirectory
  | invalid
  | noExec
  | nameTooLong
  | again
  | tooManyFiles
  | noLocks
deriving DecidableEq, Repr

/-- The host's wording of a refusal. -/
def Errno.message : Errno → Text
  | .notFound => "No such file or directory".toList
  | .denied => "Permission denied".toList
  | .exists => "File exists".toList
  | .notDirectory => "Not a directory".toList
  | .isDirectory => "Is a directory".toList
  | .invalid => "Invalid argument".toList
  | .noExec => "Exec format error".toList
  | .nameTooLong => "File name too long".toList
  | .again => "Resource temporarily unavailable".toList
  | .tooManyFiles => "Too many open files".toList
  | .noLocks => "No locks available".toList

/-! ### Causes -/

/-- A malformed setting, or settings that do not go together. -/
inductive SettingError where
  | notNumber (name value : Text)
  | notInteger (name value : Text)
  | outOfRange (name : Text) (value : Int)
  | notFlag (name value : Text)
  | tooFewRounds
  | ratioOutOfRange
  | negativePassRounds
  | negativeVariation
  | negativeExtraRounds
  | badDuration (duration : Text)
  | memoryLimitNotPositive
  | unknownTransport (transport : Text)
  | unknownMockScenario (scenario : Text)
  | profileChanged
  | startupTimeoutNotPositive
  | negativeWarmup
deriving DecidableEq

/-- A baseline that cannot be read or written. -/
inductive BaselineError where
  | fileNotFound (path : Text)
  | scenarioMissing (scenario : Text)
  | rowMalformed (scenario rps p99 cpu rss : Text)
  | notWritten (path : Text)
deriving DecidableEq

/-- An operation that the host refused, or one that makes no sense. -/
inductive HostError where
  | directoryNotCreated (path : Text) (why : Errno)
  | reportNotWritten (path : Text)
  | fileNotWritten (path : Text)
  | scriptNotWritten (path : Text)
  | reportNotPreserved (leg path : Text) (why : Errno)
  | toolMissing (role program : Text)
  | nothingToSpawn
  | nothingToRun
  | logNotOpened (path : Text) (why : Errno)
  | forkFailed (command : List Text) (why : Errno)
  | pipeFailed (why : Errno)
  | invalidHost (host : Text)
  | noTempDirectory (template : Text) (why : Errno)
  | backupFailed (path : Text) (why : Errno)
  | lockNotOpened (path : Text) (why : Errno)
  | lockHeld (path : Text)
  | lockFailed (path : Text) (why : Errno)
deriving DecidableEq

/-- A round that could not be measured. -/
inductive RoundError where
  | sampleMissing (round : Int) (scenario : Text)
  | outcomeOfUnknown (scenario : Text)
  | unknownScenario (scenario : Text)
  | loadUnreadable (scenario line : Text)
  | resourcesUnreadable (scenario line : Text)
  | loadMissing (scenario : Text)
  | resourcesMissing (scenario : Text)
  | loadOverran (budgetMs : Int)
  | loadFailed (status : Int)
  | totalsMissing (scenario : Text)
  | backendNotReady (seconds : Int)
  | subjectNotReady (subject : Text) (seconds : Int)
  | endpointNotReady (subject : Text) (seconds : Int)
  | statsUnreadable (scenario body : Text)
  | interrupted
deriving DecidableEq

/-- The three kinds of errors. -/
inductive ErrorClass where
  /-- Settings, tools, locks, the baseline. -/
  | setup
  /-- Readiness, unreadable or missing metrics, interruption. -/
  | round
  /-- Measured traffic over a fallback transport. -/
  | protocol
deriving DecidableEq, Repr

/-- The cause that ended an invocation. -/
inductive RunError where
  | setting (cause : SettingError)
  | baseline (cause : BaselineError)
  | host (cause : HostError)
  | round (cause : RoundError)
  /-- Requests of the measured phase went over HTTP/1.1, or none over HTTP/2. -/
  | impureTraffic (scenario : Text) (h2 h1 : Int)
  /-- An error in the words of a foreign round source. -/
  | reported (kind : ErrorClass) (words : Text)
deriving DecidableEq

/-! ### Kinds and exit codes -/

/-- The label of a kind. -/
def ErrorClass.label : ErrorClass → Text
  | .setup => "setup".toList
  | .round => "round".toList
  | .protocol => "protocol".toList

/-- The exit code of a passed gate. -/
def passCode : Nat := 0

/-- The exit code of a regression. -/
def regressionCode : Nat := 1

/-- The exit code of an invocation that ended with an error of a kind. -/
def ErrorClass.exitCode : ErrorClass → Nat
  | .setup => 2
  | .round => 3
  | .protocol => 4

/-- The kind of a cause. -/
def RunError.kind : RunError → ErrorClass
  | .setting _ | .baseline _ | .host _ => .setup
  | .round _ => .round
  | .impureTraffic .. => .protocol
  | .reported kind _ => kind

/-! ### Wording -/

/-- The wording of a setting error. -/
def SettingError.words : SettingError → Text
  | .notNumber n v => n ++ " is not a number: ".toList ++ v
  | .notInteger n v => n ++ " is not an integer: ".toList ++ v
  | .outOfRange n v => n ++ " is out of range: ".toList ++ Decimal.signed v
  | .notFlag n v => n ++ " must be 0 or 1, got: ".toList ++ v
  | .tooFewRounds => "ROUNDS must be >= 1".toList
  | .ratioOutOfRange => "MIN_PASS_RATIO must be in (0, 1]".toList
  | .negativePassRounds => "MIN_PASS_ROUNDS must be >= 0".toList
  | .negativeVariation => "MAX_CV_PERCENT must be >= 0".toList
  | .negativeExtraRounds => "MAX_EXTRA_ROUNDS must be >= 0".toList
  | .badDuration d => "DURATION is not a valid duration: ".toList ++ d
  | .memoryLimitNotPositive => "RSS_LIMIT_KB must be > 0".toList
  | .unknownTransport t => "unknown UPSTREAM_TRANSPORT: ".toList ++ t ++ " (use auto|h2c)".toList
  | .unknownMockScenario s =>
    "unknown MOCK_SCENARIO: ".toList ++ s ++ " (use text|code|full|error)".toList
  | .profileChanged =>
    "this profile is fixed to worker_threads=1, wrk_threads=1 and connections=8".toList
  | .startupTimeoutNotPositive => "STARTUP_TIMEOUT_S must be > 0".toList
  | .negativeWarmup => "WARMUP_REQUESTS must be >= 0".toList

/-- The wording of a baseline error. -/
def BaselineError.words : BaselineError → Text
  | .fileNotFound p => "baseline file not found: ".toList ++ p
  | .scenarioMissing s => "baseline missing scenario: ".toList ++ s
  | .rowMalformed s rps p99 cpu rss =>
    "failed to parse baseline row for ".toList ++ s ++ ": rps=".toList ++ rps ++
      " p99=".toList ++ p99 ++ " cpu=".toList ++ cpu ++ " rss=".toList ++ rss
  | .notWritten p => "failed to write baseline file: ".toList ++ p

/-- The wording of a host error. -/
def HostError.words : HostError → Text
  | .directoryNotCreated p e => "cannot create ".toList ++ p ++ ": ".toList ++ e.message
  | .reportNotWritten p => "cannot write report ".toList ++ p
  | .fileNotWritten p => "cannot write ".toList ++ p
  | .scriptNotWritten p => "cannot write wrk script: ".toList ++ p
  | .reportNotPreserved leg p e =>
    "cannot preserve ".toList ++ leg ++ " report as ".toList ++ p ++ ": ".toList ++ e.message
  | .toolMissing role p => role ++ " not found or not executable: ".toList ++ p
  | .nothingToSpawn => "spawn: empty command".toList
  | .nothingToRun => "runCommand: empty command".toList
  | .logNotOpened p e => "cannot open log ".toList ++ p ++ ": ".toList ++ e.message
  | .forkFailed argv e =>
    "fork failed for ".toList ++ commandText argv ++ ": ".toList ++ e.message
  | .pipeFailed e => "pipe failed: ".toList ++ e.message
  | .invalidHost h => "invalid IPv4 host: ".toList ++ h
  | .noTempDirectory t e => "cannot create temp directory ".toList ++ t ++ ": ".toList ++ e.message
  | .backupFailed p e => "cannot back up ".toList ++ p ++ ": ".toList ++ e.message
  | .lockNotOpened p e => "cannot open lock file ".toList ++ p ++ ": ".toList ++ e.message
  | .lockHeld p => "another gate invocation is running (lock: ".toList ++ p ++ [')']
  | .lockFailed p e => "cannot lock ".toList ++ p ++ ": ".toList ++ e.message
where
  /-- The words of a command with a space between; no space follows leading empty words. -/
  commandText (argv : List Text) : Text :=
    argv.foldl (fun out a => if out.isEmpty then a else out ++ ' ' :: a) []

/-- The wording of a round error. -/
def RoundError.words : RoundError → Text
  | .sampleMissing n s =>
    "round ".toList ++ Decimal.signed n ++ " missing metrics for scenario: ".toList ++ s
  | .outcomeOfUnknown s => "outcome for unknown scenario: ".toList ++ s
  | .unknownScenario s => "unknown scenario: ".toList ++ s
  | .loadUnreadable s line => "unparseable load metrics for ".toList ++ s ++ ": ".toList ++ line
  | .resourcesUnreadable s line =>
    "unparseable resource metrics for ".toList ++ s ++ ": ".toList ++ line
  | .loadMissing s => "missing load metrics for scenario: ".toList ++ s
  | .resourcesMissing s => "missing resource metrics for scenario: ".toList ++ s
  | .loadOverran ms => "wrk did not finish within ".toList ++ Decimal.signed ms ++ "ms".toList
  | .loadFailed status => "wrk exited with status ".toList ++ Decimal.signed status
  | .totalsMissing s => s ++ ": load generator summary lacks request totals".toList
  | .backendNotReady n =>
    "mock upstream did not become ready in ".toList ++ Decimal.signed n ++ ['s']
  | .subjectNotReady subject n =>
    subject ++ " did not become ready in ".toList ++ Decimal.signed n ++ ['s']
  | .endpointNotReady subject n =>
    subject ++ " HTTP endpoint did not become ready in ".toList ++ Decimal.signed n ++ ['s']
  | .statsUnreadable s body => s ++ " failed to parse upstream stats JSON: ".toList ++ body
  | .interrupted => "interrupted by signal".toList

/-- The wording of a cause. -/
def RunError.words : RunError → Text
  | .setting e => e.words
  | .baseline e => e.words
  | .host e => e.words
  | .round e => e.words
  | .impureTraffic s h2 h1 =>
    s ++ " upstream protocol assertion failed: expected pure h2 traffic, got h2=".toList ++
      Decimal.signed h2 ++ " h1=".toList ++ Decimal.signed h1
  | .reported _ words => words

/-- The message of an error: its wording up to the first NUL. -/
def RunError.message (e : RunError) : Text := Text.untilNul e.words

/-! ### Failures -/

/-- Whatever can end an invocation: a known cause, or a crash in a component. -/
inductive Failure where
  | gate (error : RunError)
  | crash (words : Text)
deriving DecidableEq

/-- The message of a failure. -/
def Failure.message : Failure → Text
  | .gate e => e.message
  | .crash words => Text.untilNul words

instance : Coe RunError Failure := ⟨.gate⟩
instance : Coe SettingError RunError := ⟨.setting⟩
instance : Coe BaselineError RunError := ⟨.baseline⟩
instance : Coe HostError RunError := ⟨.host⟩
instance : Coe RoundError RunError := ⟨.round⟩

end PerfGate
