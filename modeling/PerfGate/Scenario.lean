import PerfGate.Config
import PerfGate.Metrics

/-!
# Scenarios

The scenarios of a gate: what each one requests, how the service under test is configured
for it, and what the backend simulator is told.
-/

namespace PerfGate

/-- How the backend services are laid out. -/
inductive Topology where
  /-- One service. -/
  | single
  /-- Two services behind one alias. -/
  | aliasGroup
deriving DecidableEq

/-- A scenario. -/
structure Scenario where
  /-- Its name. -/
  id : ScenarioName
  /-- Whether answers are streamed. -/
  stream : Bool
  /-- Whether requests carry a tool. -/
  injectTools : Bool
  /-- The model that is asked for. -/
  model : Text
  /-- The layout of the backend services. -/
  topology : Topology
deriving DecidableEq

namespace Scenario

/-- The four scenarios with forwarded and injected tools, streamed and not. -/
def standard : List Scenario :=
  [ ⟨"forward_nonstream_wrk".toList, false, false, "m1".toList, .single⟩,
    ⟨"forward_stream_wrk".toList, true, false, "m1".toList, .single⟩,
    ⟨"fc_inject_nonstream_wrk".toList, false, true, "m1".toList, .single⟩,
    ⟨"fc_inject_stream_wrk".toList, true, true, "m1".toList, .single⟩ ]

/-- The scenarios with remapped model names. -/
def aliasRemap : List Scenario :=
  [ ⟨"alias_remap_nonstream_wrk".toList, false, false, "smart".toList, .aliasGroup⟩,
    ⟨"alias_remap_stream_wrk".toList, true, false, "smart".toList, .aliasGroup⟩ ]

/-- The scenarios of a gate. -/
def all (includeAliasRemap : Bool) : List Scenario :=
  standard ++ if includeAliasRemap then aliasRemap else []

/-! ### Requests -/

/-- The tool that is injected, as a JSON member. -/
def toolsMember : Text :=
  ("\"tools\":[\x7b\"type\":\"function\",\"function\":\x7b\"name\":\"get_weather\"," ++
    "\"description\":\"Get the current weather for a city\"," ++
    "\"parameters\":\x7b\"type\":\"object\",\"properties\":\x7b\"city\":\x7b\"type\":\"string\"" ++
    "\x7d\x7d,\"required\":[\"city\"]\x7d\x7d\x7d]").toList

/-- The body of a request. -/
def payload (s : Scenario) : Text :=
  "\x7b\"model\":\"".toList ++ s.model ++
    "\",\"messages\":[\x7b\"role\":\"user\",\"content\":\"hi\"\x7d]".toList ++
    (if s.injectTools then ',' :: toolsMember else []) ++
    (if s.stream then ",\"stream\":true".toList else []) ++ "\x7d".toList

/-! ### Services -/

/-- A flag as a word. -/
def flagWord (b : Bool) : Text := if b then "true".toList else "false".toList

/-- A value in double quotes. -/
def inQuotes (t : Text) : Text := '"' :: t ++ ['"']

/-- The lines of one backend service. -/
def serviceLines (name model : Text) (isDefault : Bool) (port : Int) : List Text :=
  [ "  - name: ".toList ++ inQuotes name,
    "    provider: \"openai\"".toList,
    "    base_url: ".toList ++
      inQuotes ("http://127.0.0.1:".toList ++ Decimal.signed port ++ "/v1".toList),
    "    api_key: \"sk-upstream\"".toList,
    "    models:".toList,
    "      - ".toList ++ inQuotes model,
    "    is_default: ".toList ++ flagWord isDefault ]

/-- The lines of the backend services. -/
def backendLines (s : Scenario) (port : Int) : List Text :=
  match s.topology with
  | .single => serviceLines "mock-openai".toList "m1".toList true port
  | .aliasGroup =>
    serviceLines "mock-openai-a".toList "smart:m1".toList true port ++
      serviceLines "mock-openai-b".toList "smart:m2".toList false port

/-- The configuration of the service under test. -/
def subjectConfig (s : Scenario) (c : Config) : Text :=
  Text.unlines
    ([ "server:".toList,
       "  port: ".toList ++ Decimal.signed c.proxyPort,
       "  host: \"127.0.0.1\"".toList,
       "  timeout: 30".toList,
       "  http_use_env_proxy: false".toList,
       "  http_force_h2c_upstream: ".toList ++ flagWord (c.backendTransport == "h2c".toList),
       "  runtime_worker_threads: ".toList ++ Decimal.signed c.workerThreads,
       "  runtime_max_blocking_threads: 8".toList,
       "  runtime_thread_stack_size_kb: 512".toList,
       "upstream_services:".toList ] ++
     s.backendLines c.backendPort ++
     [ "client_authentication:".toList,
       "  allowed_keys:".toList,
       "    - \"sk-client\"".toList,
       "features:".toList,
       "  enable_function_calling: true".toList,
       "  log_level: \"DISABLED\"".toList,
       "  convert_developer_to_system: true".toList,
       "  enable_fc_error_retry: false".toList,
       "  fc_error_retry_max_attempts: 3".toList ])

/-- What the backend simulator is told through its environment. -/
def backendVariables (s : Scenario) (c : Config) : List (Text × Text) :=
  [ ("MOCK_MODE".toList, if s.stream then "stream".toList else "nonstream".toList),
    ("MOCK_TRANSPORT".toList, c.backendTransport),
    ("MOCK_SCENARIO".toList, c.mockScenario),
    ("UPSTREAM_PORT".toList, Decimal.signed c.backendPort) ]

end Scenario

end PerfGate
