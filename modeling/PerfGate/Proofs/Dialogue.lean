import PerfGate.Processes

/-!
# Dialogues with a host

A program of the library, taken as nothing but what it asks of its host: a tree that branches on
every answer.  No answer is left out, so a fact about all the ways through the tree holds on every
host, however it fails and whatever else goes on there.
-/

namespace PerfGate

/-! ### Requests and answers -/

/-- What a program asks of its host. -/
inductive Request where
  | say (words : Text)
  | warn (words : Text)
  | readFile (path : Text)
  | writeFile (path content : Text)
  | createDirectories (path : Text)
  | copyFile (source target : Text)
  | isRegularFile (path : Text)
  | isDirectory (path : Text)
  | pathExists (path : Text)
  | mayExecute (path : Text)
  | remove (path : Text)
  | removeTree (path : Text)
  | makeDirectory (template : Text)
  | takeLock (path : Text)
  | releaseLock (lock : Nat)
  | interrupted
  | now
  | sleep (ms : Nat)
  | environment
  | processors
  | hostName
  | wallClock
  | connects (address : Text) (port : Nat)
  | startLogged (command : Command) (log : Text)
  | startPiped (command : Command) (withErrors : Bool)
  | listen (pipe : PipeId)
  | hangUp (pipe : PipeId)
  | signalGroup (group : Pid) (signal : Signal)
  | reap (pid : Pid)
  | await (pid : Pid)
  | processTree
  | readProcess (pid : Pid)
  | startReadings (pid : Pid) (intervalMs : Nat)
  | stopReadings

/-- What a host answers. -/
abbrev Request.Answer : Request → Type
  | readFile _ => Text
  | writeFile _ _ => Bool
  | createDirectories _ => Option Errno
  | copyFile _ _ => Option Errno
  | isRegularFile _ => Bool
  | isDirectory _ => Bool
  | pathExists _ => Bool
  | mayExecute _ => Bool
  | makeDirectory _ => Except Errno Text
  | takeLock _ => Except LockRefusal Nat
  | interrupted => Bool
  | now => Nat
  | environment => List Text
  | processors => Int
  | hostName => Text
  | wallClock => Nat
  | connects _ _ => Bool
  | startLogged _ _ => Except StartRefusal Pid
  | startPiped _ _ => Except StartRefusal (Pid × PipeId)
  | listen _ => Heard
  | reap _ => Reaped
  | await _ => Reaped
  | processTree => ProcessTable
  | readProcess _ => Reading
  | startReadings _ _ => Bool
  | stopReadings => List Reading
  | _ => Unit

/-- The answers of a calm host: all that is asked for is there, none of it as a directory, and can be
done, no child runs any longer, and nothing was written. -/
def Request.calm : (q : Request) → q.Answer
  | say _ | warn _ | remove _ | removeTree _ | releaseLock _ | sleep _ | hangUp _
  | signalGroup _ _ => ()
  | readFile _ => []
  | writeFile _ _ => true
  | createDirectories _ => none
  | copyFile _ _ => none
  | isRegularFile _ | pathExists _ | mayExecute _ => true
  | isDirectory _ => false
  | makeDirectory template => .ok template
  | takeLock _ => .ok 0
  | interrupted => false
  | now | wallClock => 0
  | environment => []
  | processors => 1
  | hostName => []
  | connects _ _ => true
  | startLogged _ _ => .ok 1
  | startPiped _ _ => .ok (1, 0)
  | listen _ => .closed
  | reap _ | await _ => .ended 0
  | processTree => { name? := fun _ => none, children := fun _ => [] }
  | readProcess _ => { ticks := none, rssKb := none }
  | startReadings _ _ => true
  | stopReadings => []

/-- A request with its answer. -/
structure Exchange where
  /-- What was asked. -/
  request : Request
  /-- What was answered. -/
  answer : request.Answer

/-- A request with the answer that a host gives to it. -/
def Request.answered (reply : (q : Request) → q.Answer) (q : Request) : Exchange := ⟨q, reply q⟩

/-! ### Dialogues -/

/-- What a program asks, until it is over. -/
inductive Dialogue (α : Type) where
  /-- It ends with a value or a failure. -/
  | ended (result : Except Failure α)
  /-- It asks, and goes on with the answer. -/
  | ask (q : Request) (next : q.Answer → Dialogue α)

namespace Dialogue

variable {α β : Type}

/-- Goes on behind a dialogue with its value. -/
def andThen : Dialogue α → (α → Dialogue β) → Dialogue β
  | ended (.ok a), f => f a
  | ended (.error e), _ => ended (.error e)
  | ask q next, f => ask q fun a => (next a).andThen f

/-- Goes on behind a dialogue that failed. -/
def orElse : Dialogue α → (Failure → Dialogue α) → Dialogue α
  | ended (.ok a), _ => ended (.ok a)
  | ended (.error e), f => f e
  | ask q next, f => ask q fun a => (next a).orElse f

instance : Monad Dialogue where
  pure a := ended (.ok a)
  bind := andThen

instance : MonadExceptOf Failure Dialogue where
  throw e := ended (.error e)
  tryCatch := orElse

/-- The dialogue that asks once and ends with the answer. -/
def single (q : Request) : Dialogue q.Answer := ask q pure

instance : Host Dialogue where
  say words := single (.say words)
  warn words := single (.warn words)
  readFile path := single (.readFile path)
  writeFile path content := single (.writeFile path content)
  createDirectories path := single (.createDirectories path)
  copyFile source target := single (.copyFile source target)
  isRegularFile path := single (.isRegularFile path)
  isDirectory path := single (.isDirectory path)
  pathExists path := single (.pathExists path)
  mayExecute path := single (.mayExecute path)
  remove path := single (.remove path)
  removeTree path := single (.removeTree path)
  makeDirectory template := single (.makeDirectory template)
  takeLock path := single (.takeLock path)
  releaseLock lock := single (.releaseLock lock)
  interrupted := single .interrupted
  now := single .now
  sleep ms := single (.sleep ms)
  environment := single .environment
  processors := single .processors
  hostName := single .hostName
  wallClock := single .wallClock
  connects address port := single (.connects address port)
  startLogged command log := single (.startLogged command log)
  startPiped command withErrors := single (.startPiped command withErrors)
  listen pipe := single (.listen pipe)
  hangUp pipe := single (.hangUp pipe)
  signalGroup group signal := single (.signalGroup group signal)
  reap pid := single (.reap pid)
  await pid := single (.await pid)
  processTree := single .processTree
  readProcess pid := single (.readProcess pid)
  startReadings pid intervalMs := single (.startReadings pid intervalMs)
  stopReadings := single .stopReadings

/-! ### Runs -/

/-- Whether a dialogue goes through some exchanges and then ends with a result. -/
inductive Runs : Dialogue α → List Exchange → Except Failure α → Prop
  | ended (result : Except Failure α) : Runs (ended result) [] result
  | ask {q : Request} {next : q.Answer → Dialogue α} (a : q.Answer) {es : List Exchange}
      {result : Except Failure α} (rest : Runs (next a) es result) :
      Runs (ask q next) (⟨q, a⟩ :: es) result

/-- Whether a dialogue goes through some exchanges and then asks, answered or not. -/
inductive Asks : Dialogue α → List Exchange → Request → Prop
  | now (q : Request) (next : q.Answer → Dialogue α) : Asks (ask q next) [] q
  | later {q q' : Request} {next : q.Answer → Dialogue α} (a : q.Answer) {es : List Exchange}
      (rest : Asks (next a) es q') : Asks (ask q next) (⟨q, a⟩ :: es) q'

/-- A dialogue that goes through an exchange asked for it behind those before. -/
theorem Runs.asks {x : Dialogue α} {es es' : List Exchange} {e : Exchange}
    {result : Except Failure α} (h : x.Runs (es ++ e :: es') result) :
  x.Asks es e.request
  := by
  induction es generalizing x with
  | nil => cases h with | ask a rest => apply Asks.now
  | cons _ es ih => cases h with | ask a rest => apply Asks.later a (ih rest)

/-- The exchanges and the result of a dialogue with a host that answers the same to the same. -/
def play (reply : (q : Request) → q.Answer) : Dialogue α → List Exchange × Except Failure α
  | ended result => ([], result)
  | ask q next =>
    let (es, result) := (next (reply q)).play reply
    (⟨q, reply q⟩ :: es, result)

theorem play_single (reply : (q : Request) → q.Answer) (q : Request) :
  (single q).play reply = ([q.answered reply], .ok (reply q))
  := rfl

/-- A dialogue that ends with a value goes on behind its exchanges. -/
theorem play_bind_of_ok {reply : (q : Request) → q.Answer} {x : Dialogue α} {f : α → Dialogue β}
    {es : List Exchange} {a : α} (h : x.play reply = (es, .ok a)) :
  (x >>= f).play reply = (es ++ ((f a).play reply).1, ((f a).play reply).2)
  := by
  induction x generalizing es with
  | ended result =>
    obtain ⟨rfl, rfl⟩ := Prod.mk.inj h
    rfl
  | ask q next ih =>
    obtain ⟨rfl, hvalue⟩ := Prod.mk.inj h
    have hrest := ih (reply q) (Prod.ext rfl hvalue)
    show (q.answered reply :: ((next (reply q) >>= f).play reply).1,
      ((next (reply q) >>= f).play reply).2) = _
    rw [hrest]
    rfl

theorem runs_play (reply : (q : Request) → q.Answer) (x : Dialogue α) :
  x.Runs (x.play reply).1 (x.play reply).2
  := by
  induction x with
  | ended result => apply Runs.ended
  | ask q next ih => apply Runs.ask _ (ih _)

/-- What a host that answers the same to the same is asked can be asked for. -/
theorem exists_asks_of_play {reply : (q : Request) → q.Answer} {x : Dialogue α}
    {kind : Request → Bool} (h : (x.play reply).1.any (kind ·.request) = true) :
  ∃ es q, x.Asks es q ∧ kind q = true
  := by
  obtain ⟨e, he, hkind⟩ := List.any_eq_true.1 h
  obtain ⟨es, es', hsplit⟩ := List.append_of_mem he
  have hruns := runs_play reply x
  rw [hsplit] at hruns
  exact ⟨es, e.request, hruns.asks, hkind⟩

end Dialogue

end PerfGate
