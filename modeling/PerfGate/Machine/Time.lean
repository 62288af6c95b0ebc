import PerfGate.Machine.Shell.Step

/-!
# Time on the machine

In each millisecond the processes take steps in turn, until none of them can go on or the
millisecond is used up.
-/

namespace PerfGate

namespace Machine

/-! ### Steps -/

/-- Writes the next thing that a process has to write; false if there is no room for it. -/
def flush (p : Process) (c : Channel) (t : Text) (later : List (Channel × Text)) : Act Bool := do
  let m ← get
  let p := { p with writing := later }
  match c with
  | .file place =>
    set ({ m with files := m.files.append place t }.update p)
    pure true
  | .into pipe =>
    if !m.isRead pipe then
      set ((m.update p).send Signal.brokenPipe p.pid)
      pure true
    else if pipeLimit ≤ (m.inPipe pipe).length then pure false
    else
      set ((m.setPipe pipe (m.inPipe pipe ++ t)).update p)
      pure true
  | _ =>
    set (m.update p)
    pure true

/-- How often a text without end is read at once. -/
def unitsAtOnce : Nat := 32768

/-- What a process reads next, and whether its input has ended. -/
def takeInput (p : Process) : Act (Process × Text × Bool) := do
  let m ← get
  match p.channel 0 with
  | .text t => pure (Shell.withChannel 0 .nothing p, t, true)
  | .endless unit => pure (p, (List.replicate unitsAtOnce unit).flatten, false)
  | .outOf pipe =>
    set (m.setPipe pipe [])
    pure (p, m.inPipe pipe, (m.inPipe pipe).isEmpty && !m.isWritten pipe)
  | _ => pure (p, [], true)

/-- Whether a filter can answer each part of its input by itself. -/
def isStreaming (name : Text) (args : List Text) : Bool :=
  name == "cat".toList || name == "tee".toList ||
    (name == "tr".toList && !args.any fun a => Text.startsWith ['-'] a && a.contains 's')

/-- A step of a filter; false if it has to wait for input. -/
def stepFilter (p : Process) (name : Text) (args : List Text) (heard : Text) : Act Bool := do
  let (p, more, ended) ← takeInput p
  let input := heard ++ more
  if isStreaming name args && !ended then
    let r := (Filter.reply? name args [{ content := input }] true).getD {}
    modify (·.update (p.writeCopies r.output))
    pure (!more.isEmpty)
  else
    match Filter.reply? name args [{ content := input }] ended with
    | some r =>
      let p := { p with stage := .leaving r.status }
      modify (·.update (p.writeCopies r.output |>.write 2 r.errors))
      pure true
    | none =>
      modify (·.update { p with stage := .filter name args input })
      pure (!more.isEmpty)

/-- The depth to which programs start others at once. -/
def startDepth : Nat := 5

/-- Starts the program that a process is to become. -/
def startProgram (p : Process) (c : Command) (search : Text) (blame : Option Text) : Act Unit := do
  let m ← get
  if !Process.coreAllowed m.processors c.core then
    let core := (c.core.map Decimal.signed).getD []
    set (m.update ({ p with stage := .leaving 126 }.write 2
      ("[ERROR] sched_setaffinity(core ".toList ++ core ++ "): ".toList ++ Errno.invalid.message ++
        ['\n'])))
  else
    let argv := c.argv.map Text.untilNul
    let entries := c.environment.map Text.untilNul
    let (files, p) := { p with core := c.core.orElse fun _ => p.core }.start m.files m.clock
      m.processors search blame startDepth argv entries
    set ({ m with files }.update p)

/-- A step of a process; false if it has to wait. -/
def stepProcess (pid : Pid) : Act Bool := do
  match (← get).process? pid with
  | none => pure false
  | some p =>
    if p.stopped then return false
    match p.writing with
    | (c, t) :: later => flush p c t later
    | [] =>
      match p.stage with
      | .starting c search blame => do startProgram p c search blame; pure true
      | .shell s => Shell.step p s
      | .filter name args heard => stepFilter p name args heard
      | .asleep wake =>
        if wake ≤ (← get).clock then
          modify (·.update { p with stage := .leaving 0 })
          pure true
        else pure false
      | .leaving code => do modify (·.endProcess pid (.exit code)); pure true
      | .ended _ => pure false

/-! ### Milliseconds -/

/-- A step of each of some processes; false if all of them have to wait. -/
def stepAll : List Pid → Act Bool
  | [] => pure false
  | pid :: pids => do
    let moved ← stepProcess pid
    pure ((← stepAll pids) || moved)

/-- Steps of all processes until all have to wait, `rounds` for each at most. -/
def settle : (rounds : Nat) → Act Unit
  | 0 => pure ()
  | rounds + 1 => do
    if ← stepAll ((← get).processes.map (·.pid)) then settle rounds

/-- Takes a reading, if one is due. -/
def takeReading (m : Machine) : Machine :=
  match m.watch with
  | some w =>
    if m.clock % w.interval == 0 then
      { m with watch := some { w with readings := w.readings ++ [m.reading w.pid] } }
    else m
  | none => m

/-- How many steps a process can take in a millisecond. -/
def stepsPerMs : Nat := 300

/-- Lets a millisecond go by. -/
def tick : Act Unit := do
  modify fun m => takeReading { m with clock := m.clock + 1 }
  settle stepsPerMs

/-- Lets some milliseconds go by. -/
def elapse : (ms : Nat) → Act Unit
  | 0 => pure ()
  | ms + 1 => do
    tick
    elapse ms

end Machine

end PerfGate
