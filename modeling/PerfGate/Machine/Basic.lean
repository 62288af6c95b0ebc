import PerfGate.Machine.FileTree
import PerfGate.Machine.Shell.Expansion
import PerfGate.Machine.Shell.Parser
import PerfGate.Processes

/-!
# The machine

A machine with files, processes, pipes, locks, ports and a clock.  Its processes are shells,
filters and sleepers; a shell is a stack of what it still has to do, so each step of a
process is a function that ends.  Time goes by in milliseconds, and in each of them every
process does what it can.
-/

namespace PerfGate

/-! ### Processes -/

/-- Where a channel of a process leads. -/
inductive Channel where
  /-- To the device that swallows what is written and holds nothing. -/
  | nothing
  /-- From a text that is repeated without end. -/
  | endless (unit : Text)
  /-- From a text, of which this is left. -/
  | text (left : Text)
  /-- To the end of a file. -/
  | file (place : Place)
  /-- Into a pipe. -/
  | into (pipe : PipeId)
  /-- Out of a pipe. -/
  | outOf (pipe : PipeId)
deriving DecidableEq, Inhabited

/-- The channels of a process, by their numbers. -/
abbrev Channels := List (Nat × Channel)

/-- What a shell has to do next. -/
inductive Frame where
  | run (c : Shell.Cmd)
  /-- To run a command if the last one succeeded, or if it failed. -/
  | after (succeeded : Bool) (c : Shell.Cmd)
  | choose (yes no : Shell.Cmd)
  /-- To go on with a loop or not; `last` is the status of its last round. -/
  | test (stopsOn : Bool) (condition body : Shell.Cmd) (last : Nat)
  /-- To test the condition of a loop again. -/
  | again (stopsOn : Bool) (condition body : Shell.Cmd)
  /-- To go on with a loop over words. -/
  | next (name : Text) (words : List Text) (body : Shell.Cmd)
  | negate
  /-- To have the former channels again. -/
  | restore (channels : Channels)
  /-- To have the former arguments again, behind a function. -/
  | leave (arguments : List Text)
  /-- To have variables as they were, or to have them not at all. -/
  | recall (saved : List (Text × Option (Text × Bool)))
  /-- To have the former status again, behind the action of a trap. -/
  | resume (status : Nat)
  /-- To wait for children, the last of which decides the status. -/
  | await (children : List Pid)
  /-- To wait for children that run in the background; none named are all. -/
  | join (children : List Pid)
  /-- To collect the output of a child for a command. -/
  | collect (pipe : PipeId) (child : Pid) (heard : Text) (c : Shell.Cmd)
  /-- To read a line into variables. -/
  | read (names : List Text)
  /-- To end. -/
  | exit (status : Nat)
deriving Inhabited

/-- A shell. -/
structure ShellState where
  /-- What is to do, the next thing first. -/
  frames : List Frame
  /-- The variables, and whether they are handed on to programs. -/
  vars : List (Text × Text × Bool)
  /-- The name of the script. -/
  zero : Text
  /-- The arguments. -/
  arguments : List Text
  /-- The line of the script that the last command stands in. -/
  line : Nat := 1
  /-- The exit code of the last command. -/
  status : Nat := 0
  /-- The process that the script was started in. -/
  self : Pid
  /-- The process that started it. -/
  starter : Pid
  /-- The last process in the background. -/
  background : Option Pid := none
  /-- The actions on signals; zero is the end of the shell. -/
  traps : List (Signal × Text) := []
  /-- The functions. -/
  functions : List (Text × Shell.Cmd) := []
  /-- Whether a failed command ends the shell. -/
  stopsOnError : Bool := false
  /-- Whether the last program that it starts takes its place. -/
  yields : Bool := false
deriving Inhabited

/-- How a process ended. -/
inductive Ending where
  | exit (code : Int)
  | signal (s : Signal)
deriving DecidableEq

/-- The exit code that an ended process leaves. -/
def Ending.code : Ending → Int
  | .exit code => code
  | .signal s => s.exitCode

/-- What a process is doing. -/
inductive Stage where
  /-- It is about to become a program, which is looked for on a search path.  `blame` is the
  start of a message of a shell if there is no such program. -/
  | starting (c : Command) (search : Text) (blame : Option Text)
  | shell (s : ShellState)
  /-- It collects its input. -/
  | filter (name : Text) (arguments : List Text) (heard : Text)
  /-- It sleeps until a time. -/
  | asleep (wake : Nat)
  /-- It ends as soon as everything is written. -/
  | leaving (code : Int)
  /-- It has ended and was not reaped. -/
  | ended (how : Ending)
deriving Inhabited

/-- A process. -/
structure Process where
  /-- Its number. -/
  pid : Pid
  /-- The process that started it, or the first process of the machine. -/
  parent : Pid
  /-- Its group. -/
  group : Pid
  /-- Its name. -/
  name : Text
  /-- Its working directory. -/
  directory : Place
  /-- Its channels. -/
  channels : Channels
  /-- The core that it is bound to. -/
  core : Option Int := none
  /-- The signals that it ignores. -/
  ignored : List Signal := []
  /-- The signals that its traps are still to act on. -/
  arrived : List Signal := []
  /-- Whether it was stopped and not continued. -/
  stopped : Bool := false
  /-- The signals that came in since it was stopped. -/
  held : List Signal := []
  /-- What is still to be written. -/
  writing : List (Channel × Text) := []
  /-- What it is doing. -/
  stage : Stage
deriving Inhabited

namespace Process

/-- Whether it has ended. -/
def hasEnded (p : Process) : Bool :=
  match p.stage with
  | .ended _ => true
  | _ => false

/-- Where one of its channels leads. -/
def channel (p : Process) (n : Nat) : Channel := (p.channels.lookup n).getD .nothing

/-- The process with something more to write. -/
def write (p : Process) (n : Nat) (t : Text) : Process :=
  if t.isEmpty then p else { p with writing := p.writing ++ [(p.channel n, t)] }

/-- Whether one of its channels is a given one. -/
def holds (p : Process) (c : Channel) : Bool := !p.hasEnded && p.channels.any (·.2 == c)

end Process

/-! ### The machine -/

/-- An operation that fails on a machine. -/
inductive Fault where
  | fork
  | pipe
  | lock
  | reap
  | thread
deriving DecidableEq

/-- Readings that are taken of a process. -/
structure Watch where
  /-- The process. -/
  pid : Pid
  /-- The time between two readings. -/
  interval : Nat
  /-- The readings. -/
  readings : List Reading := []

/-- A machine. -/
structure Machine where
  /-- The files. -/
  files : FileTree
  /-- The working directory of the invocation. -/
  directory : Place
  /-- The entries of its environment. -/
  environment : List Text := []
  /-- What it wrote. -/
  output : Text := []
  /-- What it wrote to standard error. -/
  errors : Text := []
  /-- The milliseconds since the machine came up. -/
  clock : Nat := 1000000
  /-- The processes, the invocation itself left out. -/
  processes : List Process := []
  /-- What is in the pipes. -/
  pipes : List (PipeId × Text) := []
  /-- The pipes that the invocation reads from. -/
  heard : List PipeId := []
  /-- The files that are locked. -/
  locks : List (Nat × Place) := []
  /-- The number of the next process, pipe, lock or fresh name. -/
  next : Nat := 1001
  /-- The ports that take connections. -/
  answering : List Nat := []
  /-- The operations that fail. -/
  failing : List Fault := []
  /-- Whether interrupting signals are caught. -/
  catchesInterrupts : Bool := false
  /-- Whether one has come in. -/
  interrupted : Bool := false
  /-- How many processors there are. -/
  processors : Nat := 4
  /-- The name of the machine. -/
  hostName : Text := "bench".toList
  /-- The seconds since 1970 at which it came up. -/
  bootSeconds : Nat := 1767322984
  /-- The readings that are being taken. -/
  watch : Option Watch := none

/-- A computation on a machine. -/
abbrev Act := StateM Machine

namespace Machine

/-- The number of the invocation's process. -/
def ownPid : Pid := 1000

/-- The number of the first process, which takes in all whose parent has ended. -/
def firstPid : Pid := 1

/-- A process. -/
def process? (m : Machine) (pid : Pid) : Option Process := m.processes.find? (·.pid == pid)

/-- The machine with a process changed. -/
def update (p : Process) (m : Machine) : Machine :=
  { m with processes := m.processes.map fun q => if q.pid == p.pid then p else q }

/-- The machine without a process. -/
def drop (pid : Pid) (m : Machine) : Machine :=
  { m with processes := m.processes.filter (·.pid != pid) }

/-- A fresh number. -/
def fresh : Act Nat := modifyGet fun m => (m.next, { m with next := m.next + 1 })

/-! ### Pipes -/

/-- How much a pipe holds before its writers have to wait. -/
def pipeLimit : Nat := 65536

/-- What is in a pipe. -/
def inPipe (m : Machine) (pipe : PipeId) : Text := (m.pipes.lookup pipe).getD []

/-- The machine with other content in a pipe. -/
def setPipe (pipe : PipeId) (t : Text) (m : Machine) : Machine :=
  { m with pipes := (pipe, t) :: m.pipes.filter (·.1 != pipe) }

/-- Whether something may still be written to a pipe. -/
def isWritten (m : Machine) (pipe : PipeId) : Bool := m.processes.any (·.holds (.into pipe))

/-- Whether something may still be read from a pipe. -/
def isRead (m : Machine) (pipe : PipeId) : Bool :=
  m.heard.contains pipe || m.processes.any (·.holds (.outOf pipe))

/-! ### Ends -/

/-- The machine behind the end of a process: its children go to the first process, which
reaps at once. -/
def endProcess (pid : Pid) (how : Ending) (m : Machine) : Machine :=
  let own (p : Process) : Bool := p.pid == pid
  let adopted := m.processes.map fun p =>
    if own p then { p with stage := .ended how, channels := [], writing := [], arrived := [] }
    else if p.parent == pid then { p with parent := firstPid }
    else p
  { m with processes := adopted.filter fun p => !(p.hasEnded && p.parent == firstPid) }

/-- Whether a process has a trap for a signal. -/
def hasTrap (p : Process) (s : Signal) : Bool :=
  match p.stage with
  | .shell sh => sh.traps.any (·.1 == s)
  | _ => false

/-- The machine after a process has taken a signal. -/
def deliver (s : Signal) (pid : Pid) (m : Machine) : Machine :=
  match m.process? pid with
  | none => m
  | some p =>
    if p.hasEnded || s == 0 then m
    else if s == Signal.kill then m.endProcess pid (.signal s)
    else if s == Signal.stop then m.update { p with stopped := true }
    else if p.ignored.contains s then m
    else if hasTrap p s then m.update { p with arrived := p.arrived ++ [s] }
    else if Signal.isQuiet s then m
    else if Signal.stops s then m.update { p with stopped := true }
    else m.endProcess pid (.signal s)

/-- The machine after a signal to a process.  One that is stopped takes no signal but the
one that kills it and the one that continues it, behind which it takes the others. -/
def send (s : Signal) (pid : Pid) (m : Machine) : Machine :=
  if pid == ownPid then
    if m.catchesInterrupts && (s == Signal.interrupt || s == Signal.terminate) then
      { m with interrupted := true }
    else m
  else
    match m.process? pid with
    | none => m
    | some p =>
      if !p.stopped || s == Signal.kill then m.deliver s pid
      else if s == Signal.resume then
        (s :: p.held).foldl (fun m s => m.deliver s pid)
          (m.update { p with stopped := false, held := [] })
      else if Signal.stops s then m
      else m.update { p with held := p.held ++ [s] }

/-- The machine after a signal to every process of a group. -/
def sendGroup (s : Signal) (group : Pid) (m : Machine) : Machine :=
  (m.processes.filter fun p => p.group == group && !p.hasEnded).foldl (fun m p => m.send s p.pid) m

/-! ### Views -/

/-- The resident memory of a process, in kilobytes. -/
def residentKb : Int := 1024

/-- A reading of a process: one that has ended has no memory. -/
def reading (m : Machine) (pid : Pid) : Reading :=
  match m.process? pid with
  | none => { ticks := none, rssKb := none }
  | some p => { ticks := some 0, rssKb := if p.hasEnded then none else some residentKb }

/-- The processes as a tree. -/
def tree (m : Machine) : ProcessTable where
  name? pid := (m.process? pid).map (·.name)
  children pid := ((m.processes.filter (·.parent == pid)).map (·.pid)).mergeSort

end Machine

end PerfGate
