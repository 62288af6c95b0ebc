import PerfGate.Config
import PerfGate.Environment
import PerfGate.Word

/-!
# Settings from the environment

Each setting that can be overridden is one entry of the table `bindings`: the name of a
variable, the kind of value it holds, and the field it sets.  A variable that is unset or
empty changes nothing.
-/

namespace PerfGate

/-- A field of a structure: how it is read, and how it is replaced. -/
structure Field (σ β : Type) where
  /-- The value of the field. -/
  get : σ → β
  /-- The structure with another value in the field. -/
  set : σ → β → σ

/-- A field that an environment variable sets, by the kind of its values. -/
inductive SettingField (σ : Type) where
  | text (field : Field σ Text)
  /-- A 32-bit integer. -/
  | integer (field : Field σ Int)
  /-- A 64-bit integer. -/
  | wideInteger (field : Field σ Int)
  /-- A 32-bit integer that may be absent. -/
  | optionalInteger (field : Field σ (Option Int))
  | number (field : Field σ Binary64)
  | flag (field : Field σ Bool)

/-- An environment variable and the field it sets. -/
structure Binding (σ : Type) where
  /-- The name of the variable. -/
  name : Text
  /-- The field. -/
  field : SettingField σ

/-! ### Values -/

/-- A 64-bit integer. -/
def readWideInteger (name value : Text) : Except SettingError Int :=
  match Numeral.integer? value with
  | some n => .ok n
  | none => .error (.notInteger name value)

/-- A 32-bit integer. -/
def readInteger (name value : Text) : Except SettingError Int := do
  let n ← readWideInteger name value
  if inRange32 n then .ok n else .error (.outOfRange name n)

/-- A finite number. -/
def readNumber (name value : Text) : Except SettingError Binary64 :=
  match Numeral.float? value with
  | some x => .ok x
  | none => .error (.notNumber name value)

/-- A flag: `1` or `0`, and nothing around it. -/
def toFlag (name value : Text) : Except SettingError Bool :=
  if value == ['1'] then .ok true
  else if value == ['0'] then .ok false
  else .error (.notFlag name value)

namespace Binding

variable {σ : Type}

/-- The settings with a field replaced by the value that a variable holds. -/
def assign (b : Binding σ) (value : Text) (s : σ) : Except SettingError σ :=
  match b.field with
  | .text f => .ok (f.set s value)
  | .integer f => (readInteger b.name value).map (f.set s)
  | .wideInteger f => (readWideInteger b.name value).map (f.set s)
  | .optionalInteger f => (readInteger b.name value).map fun n => f.set s (some n)
  | .number f => (readNumber b.name value).map (f.set s)
  | .flag f => (toFlag b.name value).map (f.set s)

/-- The settings after a variable was looked up. -/
def load (env : Environment) (s : σ) (b : Binding σ) : Except SettingError σ :=
  match env.value? b.name with
  | none => .ok s
  | some value => b.assign value s

/-- The settings after the variables of a table were looked up in order. -/
def loadAll (env : Environment) (bindings : List (Binding σ)) (s : σ) : Except SettingError σ :=
  bindings.foldlM (load env) s

end Binding

namespace Config

/-- The variables of a gate, in the order in which they are looked up. -/
def bindings : List (Binding Config) :=
  [ ⟨"BASELINE_FILE".toList, .text ⟨(·.baselineFile), ({ · with baselineFile := · })⟩⟩,
    ⟨"ROUNDS".toList, .integer
      ⟨(·.policy.plannedRounds), fun c v => { c with policy.plannedRounds := v }⟩⟩,
    ⟨"MIN_PASS_ROUNDS".toList, .optionalInteger
      ⟨(·.policy.minPassRounds), fun c v => { c with policy.minPassRounds := v }⟩⟩,
    ⟨"MIN_PASS_RATIO".toList, .number
      ⟨(·.policy.minPassRatio), fun c v => { c with policy.minPassRatio := v }⟩⟩,
    ⟨"MAX_CV_PERCENT".toList, .number
      ⟨(·.policy.maxVariation), fun c v => { c with policy.maxVariation := v }⟩⟩,
    ⟨"MAX_EXTRA_ROUNDS".toList, .integer
      ⟨(·.policy.maxExtraRounds), fun c v => { c with policy.maxExtraRounds := v }⟩⟩,
    ⟨"DURATION".toList, .text
      ⟨(·.policy.duration), fun c v => { c with policy.duration := v }⟩⟩,
    ⟨"RSS_LIMIT_KB".toList, .wideInteger
      ⟨(·.policy.memoryLimitKb), fun c v => { c with policy.memoryLimitKb := v }⟩⟩,
    ⟨"OUT_DIR".toList, .text ⟨(·.outDir), ({ · with outDir := · })⟩⟩,
    ⟨"INCLUDE_ALIAS_REMAP_SCENARIO".toList, .flag
      ⟨(·.includeAliasRemap), ({ · with includeAliasRemap := · })⟩⟩,
    ⟨"AUTO_PIN_CORES".toList, .flag ⟨(·.autoPinCores), ({ · with autoPinCores := · })⟩⟩,
    ⟨"PIN_PROXY_CORE".toList, .optionalInteger
      ⟨(·.pins.subject), fun c v => { c with pins.subject := v }⟩⟩,
    ⟨"PIN_UPSTREAM_CORE".toList, .optionalInteger
      ⟨(·.pins.backend), fun c v => { c with pins.backend := v }⟩⟩,
    ⟨"PIN_WRK_CORE".toList, .optionalInteger
      ⟨(·.pins.loadGenerator), fun c v => { c with pins.loadGenerator := v }⟩⟩,
    ⟨"SUBJECT_BIN".toList, .text ⟨(·.subjectBin), ({ · with subjectBin := · })⟩⟩,
    ⟨"SUBJECT_NAME".toList, .text ⟨(·.subjectName), ({ · with subjectName := · })⟩⟩,
    ⟨"SUBJECT_CONFIG".toList, .text ⟨(·.subjectConfig), ({ · with subjectConfig := · })⟩⟩,
    ⟨"MOCK_UPSTREAM_BIN".toList, .text
      ⟨(·.simulatorBin), ({ · with simulatorBin := · })⟩⟩,
    ⟨"WRK_BIN".toList, .text ⟨(·.wrkBin), ({ · with wrkBin := · })⟩⟩,
    ⟨"CURL_BIN".toList, .text ⟨(·.curlBin), ({ · with curlBin := · })⟩⟩,
    ⟨"WRK_THREADS".toList, .integer ⟨(·.wrkThreads), ({ · with wrkThreads := · })⟩⟩,
    ⟨"CONNECTIONS".toList, .integer ⟨(·.connections), ({ · with connections := · })⟩⟩,
    ⟨"WORKER_THREADS".toList, .integer ⟨(·.workerThreads), ({ · with workerThreads := · })⟩⟩,
    ⟨"WRK_TIMEOUT".toList, .text ⟨(·.wrkTimeout), ({ · with wrkTimeout := · })⟩⟩,
    ⟨"PROXY_PORT".toList, .integer ⟨(·.proxyPort), ({ · with proxyPort := · })⟩⟩,
    ⟨"UPSTREAM_PORT".toList, .integer ⟨(·.backendPort), ({ · with backendPort := · })⟩⟩,
    ⟨"STARTUP_TIMEOUT_S".toList, .integer
      ⟨(·.startupTimeoutS), ({ · with startupTimeoutS := · })⟩⟩,
    ⟨"WARMUP_REQUESTS".toList, .integer
      ⟨(·.warmupRequests), ({ · with warmupRequests := · })⟩⟩,
    ⟨"UPSTREAM_TRANSPORT".toList, .text
      ⟨(·.backendTransport), ({ · with backendTransport := · })⟩⟩,
    ⟨"REQUIRE_UPSTREAM_H2".toList, .flag
      ⟨(·.requireBackendH2), ({ · with requireBackendH2 := · })⟩⟩,
    ⟨"MOCK_SCENARIO".toList, .text ⟨(·.mockScenario), ({ · with mockScenario := · })⟩⟩,
    ⟨"LOCK_FILE".toList, .text ⟨(·.lockFile), ({ · with lockFile := · })⟩⟩ ]

/-- The settings of an environment over given ones, if all constraints hold. -/
def load (env : Environment) (base : Config) : Except SettingError Config := do
  let c ← Binding.loadAll env bindings base
  c.validate
  pure c

end Config

end PerfGate
