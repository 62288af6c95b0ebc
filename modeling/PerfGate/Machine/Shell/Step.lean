import PerfGate.Machine.Shell.Builtin
import PerfGate.Machine.Shell.Paths

/-!
# Steps of a shell

A shell takes the first of its frames and does one thing: it starts children, changes itself,
or puts frames in front of the others.  A shell that waits for a child, for input or for a
line does nothing until that is there.
-/

namespace PerfGate

namespace Shell

/-! ### Going on -/

/-- Goes on with a process whose shell is `s`. -/
def goOn (p : Process) (s : ShellState) : Act Unit :=
  modify (·.update { p with stage := .shell s })

/-- Whether a failed command is asked about by what comes behind it. -/
def isAsked : Frame → Bool
  | .after .. | .choose .. | .test .. | .negate => true
  | _ => false

/-- Ends a shell, with the action on its end first if there is one. -/
def leave (p : Process) (s : ShellState) (status : Nat) : Act Unit :=
  match s.traps.lookup 0 with
  | some action =>
    let s := { s with traps := s.traps.filter (·.1 != 0), status }
    match parse? action with
    | some c => goOn p { s with frames := [.run c, .exit status] }
    | none => modify (·.update { p with stage := .leaving status })
  | none => modify (·.update { p with stage := .leaving status })

/-- Goes on behind a command with a status. -/
def conclude (p : Process) (s : ShellState) (status : Nat) : Act Unit :=
  if s.stopsOnError && status != 0 && !s.frames.any isAsked then leave p s status
  else goOn p { s with status }

/-- A child of a process with the same shell and other things to do.  Its last program takes
its place. -/
def child (p : Process) (s : ShellState) (pid : Pid) (frames : List Frame) : Process :=
  { p with
    pid
    parent := p.pid
    arrived := []
    writing := []
    stage := .shell { s with frames, traps := [], yields := true } }

/-- Starts a child. -/
def fork (p : Process) (s : ShellState) (frames : List Frame) (change : Process → Process := id) :
    Act Pid := do
  let pid : Pid := (← Machine.fresh : Nat)
  modify fun m => { m with processes := m.processes ++ [change (child p s pid frames)] }
  pure pid

/-- The process with a channel that leads elsewhere. -/
def withChannel (n : Nat) (c : Channel) (p : Process) : Process :=
  { p with channels := (n, c) :: p.channels.filter (·.1 != n) }

/-! ### Redirections -/

/-- What a redirection that cannot be made is reported as. -/
def redirectComplaint (s : ShellState) (verb path : Text) (e : Errno) : Text :=
  s.blame ++ "cannot ".toList ++ verb ++ ' ' :: path ++ ": ".toList ++
    (if e == .notFound && verb == "create".toList then "Directory nonexistent".toList
      else if e == .notFound then "No such file".toList
      else e.message) ++ ['\n']

/-- The channel that leads to a file for writing. -/
def openForWriting (p : Process) (path : Text) (emptied : Bool) : Act (Except Errno Channel) := do
  let m ← get
  match m.files.openFile p.directory path with
  | .error e => pure (.error e)
  | .ok (place, files) =>
    set { m with files := if emptied then files.setContent place [] else files }
    pure (.ok (match files.at? place with
      | some (.file ..) => .file place
      | _ => .nothing))

/-- The channel that leads from a file. -/
def openForReading (p : Process) (path : Text) : Act (Except Errno Channel) := do
  let m ← get
  pure (match m.files.stat p.directory path with
    | .error e => .error e
    | .ok .zeros => .ok (.endless ['\x00'])
    | .ok (.file content _) => .ok (.text content)
    | .ok _ => .ok .nothing)

/-- The process with its channels redirected in turn, or a complaint. -/
def redirect (s : ShellState) : List Redirect → Process → Act (Except Text Process)
  | [], p => pure (.ok p)
  | d :: ds, p => do
    let target := wordValue s.scope d.target
    let channel ← match d.direction with
      | .here => pure (.ok (.text target))
      | .like =>
        if target == ['-'] then pure (.ok .nothing)
        else pure (.ok (p.channel (Decimal.value target)))
      | .from => do
        pure ((← openForReading p target).mapError (redirectComplaint s "open".toList target))
      | .to => do
        pure ((← openForWriting p target true).mapError
          (redirectComplaint s "create".toList target))
      | .behind => do
        pure ((← openForWriting p target false).mapError
          (redirectComplaint s "create".toList target))
    match channel with
    | .error words => pure (.error words)
    | .ok c => redirect s ds (withChannel d.channel c p)

/-! ### Simple commands -/

/-- The defaults that words give to variables. -/
def assignDefaults (s : ShellState) (ws : List Word) : ShellState :=
  ws.flatten.foldl (fun s part =>
    match part with
    | .parameter name op operand _ =>
      let missing := match s.value? name with
        | none => true
        | some v => op.head? == some ':' && v.isEmpty
      if (op == ":=".toList || op == ['=']) && missing then
        s.assign name (wordValue s.scope (wordParts true (operand.length + 1) operand).1)
      else s
    | _ => s) s

/-- Carries out what a command of the shell does. -/
def carryOut : Effect → Act Unit
  | .done p s status => conclude p s status
  | .going p s => goOn p s
  | .exit p s status => leave p s status
  | .become p s argv =>
    let stage : Stage :=
      .starting { argv, environment := s.entries } s.search (some (s.blame ++ "exec: ".toList))
    modify (·.update { p with stage })
  | .signal p s number targets => do
    goOn p { s with status := 0 }
    let m ← get
    let exists? (t : Int) : Bool :=
      t == Machine.ownPid || m.processes.any fun q => q.pid == t || q.group == -t || t == 0
    for t in targets do
      if t > 0 then modify (·.send number t)
      else modify (·.sendGroup number (if t == 0 then p.group else -t))
    if !targets.all exists? then
      modify fun m =>
        match m.process? p.pid with
        | some p => m.update ({ p with stage := .shell { s with status := 1 } }.write 2
            (s.blame ++ "kill: No such process\n\n".toList))
        | none => m

/-- Whether what a shell runs next takes its place: there is nothing to do behind it. -/
def yieldsNow (s : ShellState) : Bool := s.yields && s.frames.isEmpty && s.traps.isEmpty

/-- Runs a program in a child and waits for it, or in the place of the shell. -/
def runProgram (p : Process) (s : ShellState) (former : Channels) (argv entries : List Text)
    (search : Text) : Act Unit := do
  let started (q : Process) : Process :=
    { q with stage := .starting { argv, environment := entries } search (some s.blame) }
  if yieldsNow s then modify (·.update (started p))
  else
    let pid ← fork p s [] started
    goOn { p with channels := former } { s with frames := .await [pid] :: s.frames }

/-- The variables of some names as they are. -/
def formerValues (s : ShellState) (names : List Text) : List (Text × Option (Text × Bool)) :=
  names.map fun name => (name, s.vars.lookup name)

/-- The shell with variables as they were. -/
def recallAll (saved : List (Text × Option (Text × Bool))) (s : ShellState) : ShellState :=
  saved.foldr (fun (name, former) s =>
    let others := s.vars.filter (·.1 != name)
    { s with vars := others ++ (former.map fun v => (name, v)).toList }) s

/-- Runs a simple command in which every output is known. -/
def runSimple (p : Process) (s : ShellState) (c : Simple) : Act Unit := do
  let s := assignDefaults { s with line := c.line } (c.assignments.map (·.2) ++ c.words)
  let fields := expand s.scope (Paths.expand (← get).files p.directory) c.words
  let values := c.assignments.map fun (name, w) => (name, wordValue s.scope w)
  let former := p.channels
  match ← redirect s c.redirects p with
  | .error words => conclude (p.write 2 words) s 2
  | .ok p =>
    match fields with
    | [] =>
      let s := values.foldl (fun s (name, v) => s.assign name v) s
      let status := if c.words.isEmpty then 0 else s.status
      goOn { p with channels := former } { s with status }
    | name :: args =>
      let restored := { s with
        frames := if c.redirects.isEmpty then s.frames else .restore former :: s.frames }
      match s.functions.lookup name with
      | some body =>
        goOn p { restored with
          arguments := args
          frames := .run body :: .recall [] :: .leave s.arguments :: restored.frames }
      | none =>
        let m ← get
        let assigned (s : ShellState) := values.foldl (fun s (name, v) => s.assign name v) s
        let recalled (s : ShellState) : ShellState :=
          if values.isEmpty || keepsAssignments name then s
          else { s with frames := .recall (formerValues s (values.map (·.1))) :: s.frames }
        let own := assigned (if name == "exec".toList then s else recalled restored)
        match builtin? m.files p own name args with
        | some effect => carryOut effect
        | none =>
          let argv := if name == "command".toList then args else fields
          let entries := Environment.override s.entries values
          let search := (values.lookup "PATH".toList).getD s.search
          runProgram p s former argv entries search

/-! ### Compound commands -/

/-- Starts the commands of a pipeline, each with the output of the one before it. -/
def startPipeline (p : Process) (s : ShellState) : (input : Channel) → List Cmd → Act (List Pid)
  | _, [] => pure []
  | input, [c] => do
    pure [← fork p s [.run c] (withChannel 0 input)]
  | input, c :: cs => do
    let pipe ← Machine.fresh
    let pid ← fork p s [.run c] fun q => withChannel 1 (.into pipe) (withChannel 0 input q)
    pure (pid :: (← startPipeline p s (.outOf pipe) cs))

/-- The words of a loop. -/
def loopWords (t : FileTree) (p : Process) (s : ShellState) : Option (List Word) → List Text
  | none => s.arguments
  | some ws => expand s.scope (Paths.expand t p.directory) ws

/-- The command of the first arm that a text fits. -/
def selectArm (s : ShellState) (t : Text) : List (List Word × Cmd) → Cmd
  | [] => .skip
  | (ws, c) :: arms =>
    if ws.any fun w => Pattern.matchesText (wordPattern s.scope w) t then c else selectArm s t arms

/-- Starts a command whose words are known. -/
def startCommand (p : Process) (s : ShellState) : Cmd → Act Unit
  | .skip => goOn p s
  | .simple c => runSimple p s c
  | .pipeline cs => do
    let pids ← startPipeline p s (p.channel 0) cs
    goOn p { s with frames := .await pids :: s.frames }
  | .negation c => goOn p { s with frames := .run c :: .negate :: s.frames }
  | .both a b => goOn p { s with frames := .run a :: .after true b :: s.frames }
  | .either a b => goOn p { s with frames := .run a :: .after false b :: s.frames }
  | .sequence a b => goOn p { s with frames := .run a :: .run b :: s.frames }
  | .background c => do
    let pid ← fork p s [.run c] fun q =>
      { withChannel 0 .nothing q with ignored := q.ignored ++ [Signal.interrupt, 3] }
    goOn p { s with background := some pid, status := 0 }
  | .subshell c =>
    if yieldsNow s then goOn p { s with frames := [.run c] }
    else do
      let pid ← fork p s [.run c]
      goOn p { s with frames := .await [pid] :: s.frames }
  | .redirected c ds => do
    match ← redirect s ds p with
    | .ok q => goOn q { s with frames := .run c :: .restore p.channels :: s.frames }
    | .error words => conclude (p.write 2 words) s 2
  | .branch c yes no => goOn p { s with frames := .run c :: .choose yes no :: s.frames }
  | .loop stopsOn c body =>
    goOn p { s with frames := .run c :: .test stopsOn c body 0 :: s.frames }
  | .each name ws body => do
    let words := loopWords (← get).files p s ws
    goOn p { s with frames := .next name words body :: s.frames, status := 0 }
  | .select w arms =>
    goOn p { s with
      frames := .run (selectArm s (wordValue s.scope w) arms) :: s.frames
      status := 0 }
  | .define name body =>
    goOn p { s with
      functions := (name, body) :: s.functions.filter (·.1 != name)
      status := 0 }

/-- Starts the child whose output a command asks for, or the command itself. -/
def stepCommand (p : Process) (s : ShellState) (c : Cmd) : Act Unit :=
  match c.output? with
  | none => startCommand p s c
  | some script =>
    match parse? script with
    | none => leave (p.write 2 (s.blame ++ "Syntax error\n".toList)) s 2
    | some asked => do
      let pipe ← Machine.fresh
      let pid ← fork p s [.run asked] (withChannel 1 (.into pipe))
      goOn (withChannel pipe (.outOf pipe) p)
        { s with frames := .collect pipe pid [] c :: s.frames }

/-! ### Waiting -/

/-- How a process has ended. -/
def ending? (m : Machine) (pid : Pid) : Option Ending :=
  (m.process? pid).bind fun p =>
    match p.stage with
    | .ended how => some how
    | _ => none

/-- What a shell says of a child that has ended. -/
def obituary : Ending → Text
  | .exit _ => []
  | .signal s => if s.description.isEmpty then [] else s.description ++ ['\n']

/-- Drops some processes from the machine. -/
def dropAll (pids : List Pid) : Act Unit := modify fun m => pids.foldl (fun m pid => m.drop pid) m

/-- Assigns the fields of a line to variables; the last one takes what is left. -/
def assignFields (separators : Text) (s : ShellState) : List Text → Text → ShellState
  | [], _ => s
  | name :: names, line =>
    let isGap (c : Char) : Bool := separators.contains c && Text.isBlank c
    let line := line.dropWhile isGap
    if names.isEmpty then s.assign name (line.reverse.dropWhile isGap).reverse
    else
      let field := line.takeWhile (!separators.contains ·)
      let rest := (line.drop field.length).dropWhile isGap
      let rest := if rest.head?.any separators.contains then rest.drop 1 else rest
      assignFields separators (s.assign name field) names rest

/-- The first line that an input holds, the input behind it, and whether it was whole;
nothing if more is to come. -/
def takeLine? (m : Machine) : Channel → Option (Text × (Machine → Machine) × Option Channel × Bool)
  | .text t =>
    let line := t.takeWhile (· != '\n')
    some (line, id, some (.text (t.drop (line.length + 1))), line.length < t.length)
  | .outOf pipe =>
    let t := m.inPipe pipe
    let line := t.takeWhile (· != '\n')
    if line.length < t.length then
      some (line, Machine.setPipe pipe (t.drop (line.length + 1)), none, true)
    else if m.isWritten pipe then none
    else some (line, Machine.setPipe pipe [], none, false)
  | _ => some ([], id, none, false)

/-- Does what a frame says; false if it has to wait. -/
def stepFrame (p : Process) (s : ShellState) : Frame → Act Bool
  | .run c => do stepCommand p s c; pure true
  | .after succeeded c => do
    goOn p (if (s.status == 0) == succeeded then { s with frames := .run c :: s.frames } else s)
    pure true
  | .choose yes no => do
    let c := if s.status == 0 then yes else no
    let status := if c matches .skip then 0 else s.status
    goOn p { s with frames := .run c :: s.frames, status }
    pure true
  | .test stopsOn c body last => do
    if (s.status == 0) != stopsOn then
      goOn p { s with frames := .run body :: .again stopsOn c body :: s.frames, status := 0 }
    else goOn p { s with status := last }
    pure true
  | .again stopsOn c body => do
    goOn p { s with frames := .run c :: .test stopsOn c body s.status :: s.frames }
    pure true
  | .next name words body => do
    match words with
    | [] => goOn p s
    | w :: ws =>
      goOn p { (s.assign name w) with frames := .run body :: .next name ws body :: s.frames }
    pure true
  | .negate => do goOn p { s with status := if s.status == 0 then 1 else 0 }; pure true
  | .restore channels => do goOn { p with channels } s; pure true
  | .leave arguments => do goOn p { s with arguments }; pure true
  | .recall saved => do goOn p (recallAll saved s); pure true
  | .resume status => do goOn p { s with status }; pure true
  | .exit status => do modify (·.update { p with stage := .leaving status }); pure true
  | .await children => do
    let endings := children.map (ending? (← get))
    if endings.all Option.isSome then
      dropAll children
      let words := (endings.filterMap id).flatMap obituary
      conclude (p.write 2 words) s ((endings.getLast?.join.map Ending.code).getD 0).toNat
      pure true
    else pure false
  | .join children => do
    let m ← get
    let own := (m.processes.filter (·.parent == p.pid)).map (·.pid)
    let awaited := if children.isEmpty then own else children.filter own.contains
    if awaited.all fun pid => (ending? m pid).isSome then
      let last := (children.getLast?.bind (ending? m)).map Ending.code
      let words := if children.isEmpty then []
        else (awaited.filterMap (ending? m)).flatMap obituary
      dropAll awaited
      conclude (p.write 2 words) s (if children.isEmpty then 0 else (last.getD 127).toNat)
      pure true
    else pure false
  | .collect pipe pid heard c => do
    let m ← get
    let more := m.inPipe pipe
    if !more.isEmpty then
      modify (Machine.setPipe pipe [])
      goOn p { s with frames := .collect pipe pid (heard ++ more) c :: s.frames }
      pure true
    else if m.isWritten pipe then pure false
    else
      match ending? m pid with
      | none => pure false
      | some how =>
        dropAll [pid]
        let output := (heard.reverse.dropWhile (· == '\n')).reverse
        let q := { p with channels := p.channels.filter (·.1 != pipe) }.write 2 (obituary how)
        let c := c.fill output
        let frames := .run c ::
          if c.onlyAssigns && c.output?.isNone then .resume how.code.toNat :: s.frames else s.frames
        goOn q { s with frames, status := how.code.toNat }
        pure true
  | .read names => do
    match takeLine? (← get) (p.channel 0) with
    | none => pure false
    | some (line, change, input, whole) =>
      modify change
      let p := match input with
        | some c => withChannel 0 c p
        | none => p
      conclude p (assignFields s.scope.separators s names line) (if whole then 0 else 1)
      pure true

/-- Whether a frame waits for a child that runs in the foreground. -/
def isForeground : Frame → Bool
  | .await _ | .collect .. => true
  | _ => false

/-- Acts on a signal. -/
def stepTrap (p : Process) (s : ShellState) (signal : Signal) (later : List Signal) : Act Unit :=
  let p := { p with arrived := later }
  let (frames, status) := match s.frames with
    | .join _ :: fs => (fs, 128 + signal)
    | fs => (fs, s.status)
  match (s.traps.lookup signal).bind parse? with
  | some c => goOn p { s with frames := .run c :: .resume status :: frames, status }
  | none => goOn p { s with frames, status }

/-- A step of a shell; false if it has to wait. -/
def step (p : Process) (s : ShellState) : Act Bool :=
  match p.arrived, s.frames with
  | signal :: later, fs =>
    if fs.head?.any isForeground then stepFirst fs
    else do stepTrap p s signal later; pure true
  | [], fs => stepFirst fs
where
  /-- Does what the first frame says. -/
  stepFirst : List Frame → Act Bool
    | [] => do leave p s s.status; pure true
    | f :: fs => stepFrame p { s with frames := fs } f

end Shell

end PerfGate
