import PerfGate.Machine.Basic
import PerfGate.Machine.Utility.Files
import PerfGate.Path.Search

/-!
# Programs

What a process becomes when it starts a program.  A program is looked for on a search path.
A script names its interpreter in its first line, and is run by the shell if it names none.
-/

namespace PerfGate

/-- What a path leads to that can be started: a program of the base system with its
arguments. -/
structure Image where
  /-- The program. -/
  tool : Text
  /-- Its arguments. -/
  arguments : List Text
deriving DecidableEq

namespace Image

/-- The names of the shell. -/
def shells : List Text := ["sh", "dash", "bash"].map String.toList

/-- The programs that start another one with their last arguments. -/
def starters : List Text := ["env", "taskset", "nohup", "setsid", "nice"].map String.toList

/-- The programs of the base system. -/
def tools : List Text :=
  shells ++ starters ++ ["sleep", "kill", "yes", "printenv", "nproc"].map String.toList ++
    Filter.names ++ Utility.names

/-- The interpreter and its argument in the first line of a script. -/
def interpreter? (content : Text) : Option (Text × List Text) := do
  let line ← Text.after? "#!".toList (content.takeWhile (· != '\n'))
  let line := Text.trim line
  let path := line.takeWhile (!Text.isGap ·)
  let argument := Text.trim (line.drop path.length)
  some (path, if argument.isEmpty then [] else [argument])

/-- What a path can be started as; `depth` bounds the scripts that interpret scripts. -/
def load (t : FileTree) (cwd : Place) : (depth : Nat) → Text → List Text → Except Errno Image
  | 0, _, _ => .error .noExec
  | depth + 1, path, args => do
    match ← t.stat cwd path with
    | .tool => .ok { tool := Path.fileName path, arguments := args }
    | .file content mode =>
      if !(Node.file content mode).mayExecute then .error .denied
      else
        match interpreter? content with
        | some (program, extra) =>
          if program.isEmpty then .ok { tool := "sh".toList, arguments := path :: args }
          else load t cwd depth program (extra ++ path :: args)
        | none => .ok { tool := "sh".toList, arguments := path :: args }
    | _ => .error .denied

/-- The first of some paths that can be started.  A path that may not be started is passed
over, but named in the end if nothing else is found. -/
def firstOf (t : FileTree) (cwd : Place) (args : List Text) :
    (why : Errno) → List Text → Except Errno (Text × Image)
  | why, [] => .error why
  | why, path :: paths =>
    match load t cwd 5 path args with
    | .ok image => .ok (path, image)
    | .error .denied => firstOf t cwd args .denied paths
    | .error .notFound | .error .notDirectory => firstOf t cwd args why paths
    | .error e => .error e

/-- What a program is started as. -/
def find (t : FileTree) (cwd : Place) (search program : Text) (args : List Text) :
    Except Errno (Text × Image) :=
  if program.contains '/' then (load t cwd 5 program args).map fun image => (program, image)
  else firstOf t cwd args .notFound (Path.candidates search program)

end Image

/-! ### Starting -/

/-- The longest name of a process. -/
def processNameLimit : Nat := 15

namespace ShellState

/-- The start of the messages of a shell. -/
def blame (s : ShellState) : Text := s.zero ++ ": ".toList ++ Decimal.digits s.line ++ ": ".toList

/-- The variables that the entries of an environment make. -/
def importEntries (entries : List Text) : List (Text × Text × Bool) :=
  entries.filterMap fun e =>
    match Text.splitFirst? '=' e with
    | some (name, value) => if Shell.isName name then some (name, value, true) else none
    | none => none

/-- The entries that are handed on to programs. -/
def entries (s : ShellState) : List Text :=
  s.vars.filterMap fun (name, value, exported) =>
    if exported then some (Environment.entry name value) else none

/-- The value of a variable. -/
def value? (s : ShellState) (name : Text) : Option Text :=
  (s.vars.lookup name).map (·.1)

/-- The shell with a value for a variable. -/
def assign (name value : Text) (s : ShellState) : ShellState :=
  if s.vars.any (·.1 == name) then
    { s with vars := s.vars.map fun (n, v, e) =>
        if n == name then (n, value, e) else (n, v, e) }
  else { s with vars := s.vars ++ [(name, value, false)] }

/-- The shell with a variable that is handed on. -/
def exportName (name : Text) (s : ShellState) : ShellState :=
  let s := if s.vars.any (·.1 == name) then s else s.assign name []
  { s with vars := s.vars.map fun (n, v, e) => (n, v, e || n == name) }

/-- What parameters stand for. -/
def scope (s : ShellState) : Shell.Scope where
  lookup name :=
    if name == ['?'] then some (Decimal.digits s.status)
    else if name == ['$'] then some (Decimal.signed s.self)
    else if name == ['!'] then s.background.map Decimal.signed
    else if name == ['-'] then some []
    else if name == "PPID".toList then some (Decimal.signed s.starter)
    else s.value? name
  zero := s.zero
  arguments := s.arguments
  separators := (s.value? "IFS".toList).getD " \t\n".toList

/-- The search path of a shell that was given none. -/
def ownSearch : Text := "/usr/local/sbin:/usr/local/bin:/usr/sbin:/usr/bin:/sbin:/bin".toList

/-- The search path. -/
def search (s : ShellState) : Text := (s.value? "PATH".toList).getD ownSearch

end ShellState

namespace Process

/-- The seconds of a sleep, in milliseconds; a unit may stand behind the number. -/
def sleepMs? (t : Text) : Option Nat :=
  let number := t.takeWhile fun c => Text.isDigit c || c == '.'
  let factor? : Option Nat := match t.drop number.length with
    | [] | ['s'] => some 1000
    | ['m'] => some 60000
    | ['h'] => some 3600000
    | ['d'] => some 86400000
    | _ => none
  let whole := Decimal.value (number.takeWhile (· != '.'))
  let places := (number.dropWhile (· != '.')).drop 1
  if number.isEmpty then none
  else factor?.map fun factor =>
    whole * factor + Decimal.value places * factor / Nat.pow 10 places.length

/-- The process as a shell that runs a script. -/
def becomeShell (p : Process) (script zero : Text) (args : List Text) (environment : List Text)
    (stopsOnError : Bool) (yields : Bool := false) : Process :=
  let state : ShellState :=
    { frames := [], zero, arguments := args, self := p.pid, starter := p.parent, stopsOnError
      yields, vars := ShellState.importEntries environment }
  let state := state.assign "PATH".toList state.search
  let state := (state.assign "PWD".toList (Utility.placeText p.directory)).exportName "PWD".toList
  match Shell.parse? script with
  | some c => { p with stage := .shell { state with frames := [.run c] } }
  | none =>
    { p with stage := .leaving 2 }.write 2 (zero ++ ": 1: Syntax error\n".toList)

/-- The process as a shell with arguments. -/
def startShell (p : Process) (t : FileTree) (args environment : List Text) : Process :=
  let flags := args.takeWhile fun a =>
    a.head? == some '-' && a.length > 1 && !(a.contains 'c')
  let stops := flags.any (·.contains 'e')
  match args.drop flags.length with
  | ('-' :: letters) :: script :: rest =>
    p.becomeShell script (rest.headD "sh".toList) (rest.drop 1) environment
      (stops || letters.contains 'e') true
  | path :: rest =>
    match t.content? p.directory path with
    | .ok script => p.becomeShell script path rest environment stops
    | .error _ =>
      { p with stage := .leaving 2 }.write 2
        ("sh: 0: cannot open ".toList ++ path ++ ": No such file\n".toList)
  | [] =>
    match p.channel 0 with
    | .text script => p.becomeShell script "sh".toList [] environment stops
    | _ => { p with stage := .leaving 0 }

/-- The process with its input from a text without end. -/
def readingEndless (p : Process) (unit : Text) : Process :=
  { p with channels := (0, .endless unit) :: p.channels.filter (·.1 != 0) }

/-- The process as a filter, which has read the files among its operands. -/
def startFilter (p : Process) (t : FileTree) (name : Text) (args : List Text) : Process :=
  let files := Filter.operandFiles name args
  if files.isEmpty || files.contains ['-'] then { p with stage := .filter name args [] }
  else if files.any fun path => (t.stat p.directory path).toOption == some .zeros then
    { p.readingEndless ['\x00'] with stage := .filter name args [] }
  else
    let read (path : Text) : Except (Text × Nat) Source :=
      match t.content? p.directory path with
      | .ok content => .ok { name := path, content }
      | .error e => .error (Filter.refusal name path e)
    let sources := files.filterMap fun path => (read path).toOption
    let refusals : List (Text × Nat) := files.filterMap fun path =>
      match read path with
      | .error r => some r
      | .ok _ => none
    let r := if sources.isEmpty then {} else (Filter.reply? name args sources true).getD {}
    let status := match refusals with
      | (_, status) :: _ => status
      | [] => r.status
    let words : List Text := refusals.map fun r => r.1
    { p with stage := .leaving status }.write 1 r.output |>.write 2 words.flatten

/-- The number of the first channel of a `tee` that leads to a file. -/
def firstCopy : Nat := 10

/-- The process as a `tee`, with a channel to each of its files. -/
def startTee (p : Process) (t : FileTree) (args : List Text) : FileTree × Process :=
  let (os, files) := Options.ofArguments [] args
  let p := { p with stage := .filter "tee".toList args [] }
  files.foldl
    (fun (t, p) path =>
      match t.openFile p.directory path with
      | .error e =>
        (t, p.write 2 ("tee: ".toList ++ path ++ ": ".toList ++ e.message ++ ['\n']))
      | .ok (place, t) =>
        (if os.has 'a' then t else t.setContent place [],
          { p with channels := p.channels ++ [(firstCopy + p.channels.length, .file place)] }))
    (t, p)

/-- The process with an output on all channels that it copies to. -/
def writeCopies (p : Process) (output : Text) : Process :=
  (p.channels.filter fun c => firstCopy ≤ c.1).foldl (fun p c => p.write c.1 output)
    (p.write 1 output)

end Process

/-! ### What starters start -/

/-- The arguments of `env` behind its options, and the entries that these leave. -/
def envOptions : (args environment : List Text) → List Text × List Text
  | ['-', 'i'] :: args, _ => envOptions args []
  | ['-', 'u'] :: name :: args, environment =>
    envOptions args (environment.filter fun e => Environment.entryName e != name)
  | args, environment => (args, environment)

/-- The command behind the options and assignments of a program that starts another one, and
the entries that it starts it with. -/
def startedBy (tool : Text) (args environment : List Text) : List Text × List Text :=
  if tool == "env".toList then
    let (args, environment) := envOptions args environment
    let isAssignment (a : Text) : Bool := a.contains '=' && a.head? != some '='
    let overrides := (args.takeWhile isAssignment).filterMap (Text.splitFirst? '=')
    (args.dropWhile isAssignment,
      Environment.override environment overrides)
  else if tool == "taskset".toList then
    ((if args.head? == some "-c".toList then args.drop 2 else args.drop 1), environment)
  else (args.dropWhile fun a => a.head? == some '-', environment)

namespace Process

/-- The message on a program that cannot be started, and the exit code. -/
def refusal (program : Text) (blame : Option Text) (e : Errno) : Text × Int :=
  match blame with
  | none => ("[ERROR] exec ".toList ++ program ++ ": ".toList ++ e.message ++ ['\n'], 127)
  | some start =>
    if e == .notFound then (start ++ program ++ ": not found\n".toList, 127)
    else (start ++ program ++ ": ".toList ++ e.message ++ ['\n'], 126)

/-- Whether a process may be bound to a core. -/
def coreAllowed (processors : Nat) (core : Option Int) : Bool :=
  core.all fun (n : Int) => 0 ≤ n && n < processors

/-- The line that ends the messages of a `sleep`. -/
def sleepHelp : Text := "Try 'sleep --help' for more information.\n".toList

/-- The files and the process after it became a program of the base system. -/
def becomeTool (p : Process) (t : FileTree) (clock processors : Nat) (image : Image)
    (environment : List Text) : FileTree × Process :=
  let args := image.arguments
  if Image.shells.contains image.tool then (t, p.startShell t args environment)
  else if image.tool == "sleep".toList then
    match args.mapM sleepMs? with
    | some times =>
      if args.isEmpty then
        (t, { p with stage := .leaving 1 }.write 2
          ("sleep: missing operand\n".toList ++ sleepHelp))
      else (t, { p with stage := .asleep (clock + times.foldl (· + ·) 0) })
    | none =>
      let wrong := (args.find? fun a => (sleepMs? a).isNone).getD []
      (t, { p with stage := .leaving 1 }.write 2
        ("sleep: invalid time interval '".toList ++ wrong ++ "'\n".toList ++ sleepHelp))
  else if image.tool == "yes".toList then
    let unit := if args.isEmpty then ['y'] else Text.join [' '] args
    (t, { p.readingEndless (unit ++ ['\n']) with stage := .filter "cat".toList [] [] })
  else if image.tool == "printenv".toList then
    let values := args.filterMap (Environment.ofEntries environment)
    let shown := if args.isEmpty then environment else values
    (t, { p with stage := .leaving (if values.length = args.length then 0 else 1) }.write 1
      (Text.unlines shown))
  else if image.tool == "nproc".toList then
    let count := if p.core.isSome then 1 else processors
    (t, { p with stage := .leaving 0 }.write 1 (Decimal.digits count ++ ['\n']))
  else if image.tool == "tee".toList then p.startTee t args
  else if Filter.names.contains image.tool then (t, p.startFilter t image.tool args)
  else
    match Utility.reply? t p.directory image.tool args with
    | some (r, t) =>
      (t, { p with stage := .leaving r.status }.write 1 r.output |>.write 2 r.errors)
    | none => (t, { p with stage := .leaving 127 })

/-- The files and the process after it started a program, or failed to; `depth` bounds the
programs that start others. -/
def start (t : FileTree) (clock processors : Nat) (search : Text) (blame : Option Text) :
    (depth : Nat) → Process → List Text → List Text → FileTree × Process
  | 0, p, _, _ => (t, { p with stage := .leaving 126 })
  | depth + 1, p, argv, environment =>
    let program := argv.headD []
    match Image.find t p.directory search program (argv.drop 1) with
    | .error e =>
      let (words, code) := refusal program blame e
      (t, { p with stage := .leaving code }.write 2 words)
    | .ok (path, image) =>
      let p := { p with name := (Path.fileName path).take processNameLimit }
      if Image.starters.contains image.tool then
        let (argv, environment) := startedBy image.tool image.arguments environment
        if argv.isEmpty then
          (t, { p with stage := .leaving 0 }.write 1 (Text.unlines environment))
        else
          start t clock processors search (some (image.tool ++ ": ".toList)) depth p argv
            environment
      else p.becomeTool t clock processors image environment

end Process

end PerfGate
