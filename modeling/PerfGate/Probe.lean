import PerfGate.LoadScript
import PerfGate.Process.Run
import PerfGate.Waiting
import PerfGate.Word

/-!
# Probes

Requests by an HTTP client that runs as a command: posts, whose status is all that counts,
and a fetch of statistics.  A post tells whether an endpoint is ready and warms it up.
-/

namespace PerfGate

namespace Probe

/-! ### Command lines -/

/-- The command that posts a body and writes the status of the answer. -/
def postCommand (client url body : Text) (connectTimeoutS maxTimeS : Int) : List Text :=
  [ client,
    "-sS".toList,
    "-o".toList, "/dev/null".toList,
    "-w".toList, "%\x7bhttp_code\x7d".toList,
    "--noproxy".toList, ['*'],
    "--connect-timeout".toList, Decimal.signed connectTimeoutS,
    "--max-time".toList, Decimal.signed maxTimeS,
    "-X".toList, "POST".toList,
    url,
    "-H".toList, "Authorization: Bearer sk-client".toList,
    "-H".toList, "Content-Type: application/json".toList,
    "--data".toList, body ]

/-- The command that fetches a resource, at once over HTTP/2 or with the usual choice. -/
def fetchCommand (client url : Text) (http2 : Bool) (maxTimeS : Int) : List Text :=
  [client, "-sS".toList, "--noproxy".toList, ['*']] ++
    (if http2 then ["--http2-prior-knowledge".toList] else []) ++
    ["--max-time".toList, Decimal.signed maxTimeS, url]

/-- The time budget of a client that keeps a time limit itself. -/
def budgetMs (maxTimeS : Int) : Int := maxTimeS * 1000 + 2000

/-! ### Answers -/

/-- The status that a client wrote; it is positive. -/
def status? (output : Text) : Option Int :=
  ((Numeral.integer? output).filter (0 < ·)).map wrap32

/-- Whether an endpoint that answers with a status is up: it took the request, or refused it
for what it says. -/
def isReady (status : Int) : Bool := status == 200 || (400 ≤ status && status < 500)

variable {m : Type → Type} [Monad m] [MonadExceptOf Failure m] [Surroundings m] [Processes m]
  [Interruption m]

/-- Posts a body and tells the status of the answer, if there is one. -/
def post? (client url body : Text) (connectTimeoutS maxTimeS : Int) : m (Option Int) := do
  let r ← Command.run (postCommand client url body connectTimeoutS maxTimeS) (budgetMs maxTimeS)
  pure (if r.timedOut then none else status? r.output)

/-- Fetches a resource, if that succeeds. -/
def fetch? (client url : Text) (http2 : Bool) (maxTimeS : Int) : m (Option Text) := do
  let r ← Command.run (fetchCommand client url http2 maxTimeS) (budgetMs maxTimeS)
  pure (if r.timedOut || r.exitCode != 0 then none else some r.output)

/-! ### Readiness -/

/-- How long it is before an endpoint that is not ready is asked again, in milliseconds. -/
def retryMs : Nat := 50

/-- Asks an endpoint until it is ready or the deadline has passed, `tries` times at most. -/
def readyBefore [Clock m] (client url body : Text) (deadline : Int) : (tries : Nat) → m Bool
  | 0 => pure false
  | tries + 1 => do
    if deadline ≤ (← now : Nat) then pure false
    else if ((← post? client url body 1 1).any isReady) then pure true
    else
      sleepInterruptibly retryMs
      readyBefore client url body deadline tries

/-- Waits until an endpoint is ready; false if the timeout passes first.  Each try but a
successful one takes at least the time between two tries, which bounds their number. -/
def untilReady [Clock m] (client url body : Text) (timeoutMs : Int) : m Bool := do
  let timeoutMs := keptMs timeoutMs
  readyBefore client url body ((← now : Nat) + timeoutMs) (timeoutMs.toNat / retryMs + 1)

/-- Posts a body a number of times, and counts the answers. -/
def warmUp (client url body : Text) (connectTimeoutS maxTimeS : Int) :
    (count : Nat) → (answered : Nat) → m Nat
  | 0, answered => pure answered
  | count + 1, answered => do
    checkInterruption
    let status ← post? client url body connectTimeoutS maxTimeS
    warmUp client url body connectTimeoutS maxTimeS count
      (if status.isSome then answered + 1 else answered)

end Probe

end PerfGate
