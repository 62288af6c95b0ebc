import PerfGate.Machine.Time

/-!
# The machine as a host

Every computation with a machine as its state has all that the gate asks of its host.
-/

namespace PerfGate

namespace Machine

/-! ### Starting -/

/-- Whether an operation fails. -/
def fails (m : Machine) (f : Fault) : Bool := m.failing.contains f

/-- Starts a process that leads a group of its own. -/
def startProcess (c : Command) (output errors : Channel) : Act (Except Errno Pid) := do
  let m ← get
  if m.fails .fork then pure (.error .again)
  else
    let pid : Pid := m.next
    let search := Path.searchPath (.ofEntries m.environment)
    let p : Process :=
      { pid, parent := ownPid, group := pid, name := "gate".toList, directory := m.directory
        channels := [(0, .nothing), (1, output), (2, errors)]
        stage := .starting c search none }
    set { m with next := m.next + 1, processes := m.processes ++ [p] }
    pure (.ok pid)

/-- Starts a command with its output in a file. -/
def startWithLog (c : Command) (log : Text) : Act (Except StartRefusal Pid) := do
  let m ← get
  match m.files.openFile m.directory log with
  | .error e => pure (.error (.logNotOpened e))
  | .ok (place, files) =>
    set { m with files := files.setContent place [] }
    let channel : Channel := match files.at? place with
      | some (.file ..) => .file place
      | _ => .nothing
    pure ((← startProcess c channel channel).mapError .forkFailed)

/-- Starts a command with its output in a pipe. -/
def startWithPipe (c : Command) (withErrors : Bool) : Act (Except StartRefusal (Pid × PipeId)) := do
  if (← get).fails .pipe then pure (.error (.pipeFailed .tooManyFiles))
  else
    let pipe ← fresh
    match ← startProcess c (.into pipe) (if withErrors then .into pipe else .nothing) with
    | .error e => pure (.error (.forkFailed e))
    | .ok pid =>
      modify fun m => { m with heard := pipe :: m.heard }
      pure (.ok (pid, pipe))

/-! ### Listening and reaping -/

/-- Takes what is in a pipe, if there is something. -/
def takeHeard (pipe : PipeId) : Act Heard := do
  let m ← get
  let t := m.inPipe pipe
  if !t.isEmpty then
    set (m.setPipe pipe [])
    pure (.output t)
  else if m.isWritten pipe then pure .silence
  else pure .closed

/-- What comes out of a pipe within a millisecond. -/
def listenTo (pipe : PipeId) : Act Heard := do
  match ← takeHeard pipe with
  | .silence => do
    tick
    match ← takeHeard pipe with
    | .closed => pure .silence
    | h => pure h
  | .output t => do
    tick
    pure (.output t)
  | h => pure h

/-- Looks whether a child has ended. -/
def reapNow (pid : Pid) : Act Reaped := do
  let m ← get
  match m.process? pid with
  | none => pure .lost
  | some p =>
    match p.stage with
    | .ended how =>
      set (m.drop pid)
      pure (if m.fails .reap then .lost else .ended how.code)
    | _ => pure .running

/-- Waits for the end of a child, for at most some milliseconds. -/
def reapWithin (pid : Pid) : (ms : Nat) → Act Reaped
  | 0 => reapNow pid
  | ms + 1 => do
    match ← reapNow pid with
    | .running => do
      tick
      reapWithin pid ms
    | r => pure r

/-- The longest wait for a child, in milliseconds: a day. -/
def longestWait : Nat := 86400000

/-! ### Locks -/

/-- Locks a file without waiting. -/
def lockFile (path : Text) : Act (Except LockRefusal Nat) := do
  let m ← get
  match m.files.openFile m.directory path with
  | .error e => pure (.error (.notOpened e))
  | .ok (place, files) =>
    set { m with files }
    if m.fails .lock then pure (.error (.failed .noLocks))
    else if m.locks.any (·.2 == place) then pure (.error .held)
    else
      let id ← fresh
      modify fun m => { m with locks := (id, place) :: m.locks }
      pure (.ok id)

/-! ### Files -/

/-- Replaces the content of a file. -/
def replaceFile (path content : Text) : Act Bool := do
  let m ← get
  match m.files.write m.directory path content with
  | .ok files => do
    set { m with files }
    pure true
  | .error _ => pure false

/-- Creates a directory with those above it. -/
def createPath (path : Text) : Act (Option Errno) := do
  let m ← get
  let (files, e) := m.files.makeDirectories m.directory path
  set { m with files }
  pure e

/-- Copies a file. -/
def copyTo (source target : Text) : Act (Option Errno) := do
  let m ← get
  match m.files.copy m.directory source target with
  | .ok files => do
    set { m with files }
    pure none
  | .error e => pure (some e)

/-- Creates a directory in the stead of a template. -/
def createFresh (template : Text) : Act (Except Errno Text) := do
  let m ← get
  match m.files.makeFresh m.directory template m.next with
  | .ok (path, files) => do
    set { m with files, next := m.next + 1 }
    pure (.ok path)
  | .error e => pure (.error e)

/-! ### Monitoring -/

/-- Starts to take readings of a process. -/
def watchProcess (pid : Pid) (interval : Nat) : Act Bool := do
  let m ← get
  if m.fails .thread then pure false
  else
    set { m with watch := some { pid, interval, readings := [m.reading pid] } }
    pure true

/-- Stops that, and tells the readings. -/
def endWatch : Act (List Reading) := modifyGet fun m =>
  ((m.watch.map (·.readings)).getD [], { m with watch := none })

/-! ### The host -/

variable {m : Type → Type} [Monad m] [MonadStateOf Machine m]

/-- Does something on the machine. -/
def act {α : Type} (a : Act α) : m α := modifyGet fun s => a.run s

instance : Host m where
  say t := modify fun s => { s with output := s.output ++ t }
  warn t := modify fun s => { s with errors := s.errors ++ t }
  readFile path := do
    let s ← get
    pure (s.files.read s.directory path)
  writeFile path content := act (replaceFile path content)
  createDirectories path := act (createPath path)
  copyFile source target := act (copyTo source target)
  isRegularFile path := do let s ← get; pure (s.files.isRegular s.directory path)
  isDirectory path := do let s ← get; pure (s.files.isDirectory s.directory path)
  pathExists path := do let s ← get; pure (s.files.has s.directory path)
  mayExecute path := do let s ← get; pure (s.files.mayExecute s.directory path)
  remove path := modify fun s => { s with files := s.files.remove s.directory path }
  removeTree path := modify fun s => { s with files := s.files.removeAll s.directory path }
  makeDirectory template := act (createFresh template)
  takeLock path := act (lockFile path)
  releaseLock id := modify fun s => { s with locks := s.locks.filter (·.1 != id) }
  interrupted := do pure (← get).interrupted
  now := do pure (← get).clock
  sleep ms := act (elapse ms)
  environment := do pure (← get).environment
  processors := do pure (← get).processors
  hostName := do pure (← get).hostName
  wallClock := do let s ← get; pure (s.bootSeconds + s.clock / 1000)
  connects _ port := do pure ((← get).answering.contains port)
  startLogged c log := act (startWithLog c log)
  startPiped c withErrors := act (startWithPipe c withErrors)
  listen pipe := act (listenTo pipe)
  hangUp pipe := modify fun s => { s with heard := s.heard.filter (· != pipe) }
  signalGroup group s := modify (Machine.sendGroup s group)
  reap pid := act (reapNow pid)
  await pid := act (reapWithin pid longestWait)
  processTree := do pure (← get).tree
  readProcess pid := do pure ((← get).reading pid)
  startReadings pid interval := act (watchProcess pid interval)
  stopReadings := act endWatch

end Machine

/-- A run on a machine. -/
abbrev MachineRun := ExceptT Failure (StateM Machine)

namespace Machine

/-! ### The base system -/

/-- The directories of the base system. -/
def baseDirectories : List Place :=
  [["bin"], ["usr"], ["usr", "bin"], ["usr", "local"], ["usr", "local", "bin"], ["dev"], ["tmp"],
    ["root"]].map (·.map String.toList)

/-- The files of the base system. -/
def baseFiles : FileTree where
  nodes :=
    baseDirectories.map (·, .directory) ++
      [(["dev".toList, "null".toList], .null), (["dev".toList, "zero".toList], .zeros)] ++
      Image.tools.map (fun name => (["usr".toList, "bin".toList, name], .tool)) ++
      Image.tools.map (fun name => (["bin".toList, name], .tool))

/-- The base system with an invocation in a directory of it. -/
def base (directory : Place) : Machine where
  files := baseFiles.put directory .directory
  directory

end Machine

end PerfGate
