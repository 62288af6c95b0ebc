import PerfGate.Machine.Image

/-!
# Commands that a shell runs itself

Most of them only change the shell; the others act on the process that runs it or on the
machine.  A command that cannot go on yet leaves a frame behind.
-/

namespace PerfGate

namespace Shell

/-- What a command of the shell does. -/
inductive Effect where
  /-- The process goes on with a status. -/
  | done (p : Process) (s : ShellState) (status : Nat)
  /-- The process goes on, and the status is decided later. -/
  | going (p : Process) (s : ShellState)
  /-- The shell ends. -/
  | exit (p : Process) (s : ShellState) (status : Nat)
  /-- The process becomes another program. -/
  | become (p : Process) (s : ShellState) (argv : List Text)
  /-- Signals are sent. -/
  | signal (p : Process) (s : ShellState) (number : Signal) (targets : List Int)
deriving Inhabited

/-- The number of an argument, or another one. -/
def numberOr (n : Nat) (args : List Text) : Nat := ((args.head?.bind Numeral.natural?)).getD n

/-- Whether a frame belongs to a loop. -/
def isLoop : Frame → Bool
  | .test .. | .again .. | .next .. => true
  | _ => false

/-- The frames behind the end of the loop that is `n` loops further out. -/
def leaveLoops : (n : Nat) → List Frame → List Frame
  | 0, fs => fs
  | n + 1, fs => leaveLoops n ((fs.dropWhile (!isLoop ·)).drop 1)

/-- The frames from the loop that is `n` loops further out. -/
def continueLoop (n : Nat) (fs : List Frame) : List Frame :=
  (leaveLoops (n - 1) fs).dropWhile (!isLoop ·)

/-- The frames behind the end of a function. -/
def leaveFunction (fs : List Frame) : List Frame :=
  fs.dropWhile fun
    | .recall _ => false
    | _ => true

/-- The channels that a return or a loop's end gives back: those of the outermost
redirection that is left. -/
def channelsAfter (p : Process) (before behind : List Frame) : Channels :=
  let left := before.take (before.length - behind.length)
  (left.foldl (fun cs f => match f with
    | .restore channels => channels
    | _ => cs) p.channels)

/-- What `set` does. -/
def setOptions (p : Process) (s : ShellState) (args : List Text) : Effect :=
  let flags := args.takeWhile fun a =>
    (a.head? == some '-' || a.head? == some '+') && a != "--".toList
  let s := flags.foldl (fun s a =>
    if a.contains 'e' then { s with stopsOnError := a.head? == some '-' } else s) s
  match args.drop flags.length with
  | [] => .done p s 0
  | a :: rest => .done p { s with arguments := if a == "--".toList then rest else a :: rest } 0

/-- What `trap` does. -/
def trap (p : Process) (s : ShellState) (args : List Text) : Effect :=
  let without (signals : List Signal) : ShellState :=
    { s with traps := s.traps.filter fun t => !signals.contains t.1 }
  match args with
  | [] => .done p s 0
  | action :: names =>
    let signals := (if names.isEmpty then args else names).filterMap Signal.ofText?
    if names.isEmpty || action == ['-'] then
      .done { p with ignored := p.ignored.filter (!signals.contains ·) } (without signals) 0
    else if action.isEmpty then
      .done { p with ignored := p.ignored ++ signals } (without signals) 0
    else
      .done { p with ignored := p.ignored.filter (!signals.contains ·) }
        { without signals with traps := (without signals).traps ++ signals.map (·, action) } 0

/-- What `kill` does. -/
def kill (p : Process) (s : ShellState) (args : List Text) : Effect :=
  let (number, targets) : Option Signal × List Text := match args with
    | ['-', 's'] :: name :: rest => (Signal.ofText? name, rest)
    | ['-', 'n'] :: name :: rest => (Signal.ofText? name, rest)
    | ['-', '-'] :: rest => (some Signal.terminate, rest)
    | ('-' :: name) :: rest =>
      (Signal.ofText? name, if rest.head? == some "--".toList then rest.drop 1 else rest)
    | rest => (some Signal.terminate, rest)
  match number, targets.mapM Numeral.integer? with
  | some n, some pids => .signal p s n pids
  | _, _ => .done (p.write 2 (s.blame ++ "kill: Illegal number\n".toList)) s 2

/-- What `export` and its relatives do. -/
def declare (p : Process) (s : ShellState) (args : List Text) : Effect :=
  let step (s : ShellState) (a : Text) : ShellState :=
    match Text.splitFirst? '=' a with
    | some (name, value) => (s.assign name value).exportName name
    | none => if isName a then s.exportName a else s
  .done p ((args.filter fun a => a.head? != some '-').foldl step s) 0

/-- The frames in which the variables that are recalled next are one more. -/
def saveIn (name : Text) (former : Option (Text × Bool)) : List Frame → List Frame
  | .recall saved :: fs => .recall (saved ++ [(name, former)]) :: fs
  | f :: fs => f :: saveIn name former fs
  | [] => []

/-- What `local` does: the function that runs gives the variables back at its end. -/
def declareLocal (p : Process) (s : ShellState) (args : List Text) : Effect :=
  let step (s : ShellState) (a : Text) : ShellState :=
    let (name, value?) := match Text.splitFirst? '=' a with
      | some (name, value) => (name, some value)
      | none => (a, none)
    let s := { s with frames := saveIn name (s.vars.lookup name) s.frames }
    match value? with
    | some value => s.assign name value
    | none => s
  .done p (args.foldl step s) 0

/-- What `exit` does. -/
def exit (p : Process) (s : ShellState) (args : List Text) : Effect :=
  match args with
  | [] => .exit p s s.status
  | a :: _ =>
    match Numeral.natural? a with
    | some n => .exit p s (n % 256)
    | none => .exit (p.write 2 (s.blame ++ "exit: Illegal number: ".toList ++ a ++ ['\n'])) s 2

/-- What `test` does under one of its names. -/
def test (t : FileTree) (p : Process) (s : ShellState) (name : Text) (args : List Text) : Effect :=
  match Condition.holds t p.directory args with
  | .ok holds => .done p s (if holds then 0 else 1)
  | .error words =>
    .done (p.write 2 (s.blame ++ name ++ ": ".toList ++ words ++ ['\n'])) s 2

/-- The names of the commands that a shell runs itself. -/
def builtinNames : List Text :=
  [":", "true", "umask", "ulimit", "hash", "false", "echo", "printf", "exit", "return", "break",
    "continue", "shift", "set", "trap", "kill", "wait", "read", "export", "readonly", "local",
    "unset", "eval", ".", "cd", "pwd", "test", "[", "exec", "command"].map String.toList

/-- The commands whose assignments stay. -/
def keepsAssignments (name : Text) : Bool :=
  ([":", "exit", "return", "break", "continue", "shift", "set", "trap", "export", "readonly",
    "unset", "eval", ".", "exec"].map String.toList).contains name

/-- What `cd` does. -/
def changeDirectory (t : FileTree) (p : Process) (s : ShellState) (args : List Text) : Effect :=
  let target := (args.head?.orElse fun _ => s.value? "HOME".toList).getD []
  match t.place p.directory target with
  | .ok place =>
    if (t.at? place).any (·.isDirectory) then
      .done { p with directory := place } (s.assign "PWD".toList (Utility.placeText place)) 0
    else .done (p.write 2 (s.blame ++ "cd: can't cd to ".toList ++ target ++ ['\n'])) s 2
  | .error _ => .done (p.write 2 (s.blame ++ "cd: can't cd to ".toList ++ target ++ ['\n'])) s 2

/-- The command that a text is, or the end of the shell if it is none. -/
def runText (p : Process) (s : ShellState) (script : Text) : Effect :=
  match parse? script with
  | some c => .going p { s with frames := .run c :: s.frames }
  | none => .exit (p.write 2 (s.blame ++ "Syntax error\n".toList)) s 2

/-- What a command of the shell does, if there is one of the name. -/
def builtin? (t : FileTree) (p : Process) (s : ShellState) (name : Text) (args : List Text) :
    Option Effect :=
  match String.ofList name with
  | ":" | "true" | "ulimit" | "hash" => some (.done p s 0)
  | "umask" => some (.done (if args.isEmpty then p.write 1 "0022\n".toList else p) s 0)
  | "false" => some (.done p s 1)
  | "echo" => some (.done (p.write 1 (Format.echo args)) s 0)
  | "printf" =>
    some (.done (p.write 1 (Format.printf (args.length + 1) (args.headD []) (args.drop 1))) s 0)
  | "exit" => some (exit p s args)
  | "return" =>
    let frames := leaveFunction s.frames
    let status := numberOr s.status args % 256
    if frames.isEmpty then some (.exit p s status)
    else
      some (.done { p with channels := channelsAfter p s.frames frames } { s with frames } status)
  | "break" | "continue" =>
    if !s.frames.any isLoop then some (.done p s 0)
    else
      let frames := (if name == "break".toList then leaveLoops else continueLoop)
        (numberOr 1 args) s.frames
      some (.done { p with channels := channelsAfter p s.frames frames } { s with frames } 0)
  | "shift" =>
    let n := numberOr 1 args
    if s.arguments.length < n then
      some (.exit (p.write 2 (s.blame ++ "shift: can't shift that many\n".toList)) s 2)
    else some (.done p { s with arguments := s.arguments.drop n } 0)
  | "set" => some (setOptions p s args)
  | "trap" => some (trap p s args)
  | "kill" => some (kill p s args)
  | "wait" =>
    some (.going p { s with frames := .join (args.filterMap Numeral.integer?) :: s.frames })
  | "read" =>
    let names := args.filter fun a => a.head? != some '-'
    let names := if names.isEmpty then ["REPLY".toList] else names
    some (.going p { s with frames := .read names :: s.frames })
  | "export" | "readonly" => some (declare p s args)
  | "local" => some (declareLocal p s args)
  | "unset" =>
    some (.done p { s with
      vars := s.vars.filter fun (n, _) => !args.contains n
      functions := s.functions.filter fun (n, _) => !args.contains n } 0)
  | "eval" => some (runText p s (Text.join [' '] args))
  | "." =>
    match t.content? p.directory (args.headD []) with
    | .ok script => some (runText p s script)
    | .error _ =>
      some (.exit (p.write 2 (s.blame ++ ".: cannot open ".toList ++ args.headD [] ++
        ": No such file\n".toList)) s 2)
  | "cd" => some (changeDirectory t p s args)
  | "pwd" => some (.done (p.write 1 (Utility.placeText p.directory ++ ['\n'])) s 0)
  | "test" => some (test t p s name args)
  | "[" =>
    if args.getLast? == some [']'] then some (test t p s name args.dropLast)
    else some (.done (p.write 2 (s.blame ++ "[: missing ]\n".toList)) s 2)
  | "exec" => if args.isEmpty then some (.done p s 0) else some (.become p s args)
  | "command" =>
    match args with
    | ['-', 'v'] :: name :: _ =>
      if builtinNames.contains name then some (.done (p.write 1 (name ++ ['\n'])) s 0)
      else match Image.find t p.directory s.search name [] with
      | .ok (path, _) => some (.done (p.write 1 (path ++ ['\n'])) s 0)
      | .error _ => some (.done p s 127)
    | _ => none
  | _ => none

end Shell

end PerfGate
