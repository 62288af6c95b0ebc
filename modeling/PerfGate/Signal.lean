import PerfGate.Numeral

/-!
# Signals

A signal is its number.  The exit code of a process that a signal ended is 128 more.
-/

namespace PerfGate

/-- A signal, by its number. -/
abbrev Signal := Nat

namespace Signal

/-- The names of the signals, in the order of their numbers from one. -/
def names : List Text :=
  ["HUP", "INT", "QUIT", "ILL", "TRAP", "ABRT", "BUS", "FPE", "KILL", "USR1", "SEGV", "USR2",
    "PIPE", "ALRM", "TERM", "STKFLT", "CHLD", "CONT", "STOP", "TSTP", "TTIN", "TTOU", "URG",
    "XCPU", "XFSZ", "VTALRM", "PROF", "WINCH", "IO", "PWR", "SYS"].map String.toList

/-- What a shell says of a process that a signal ended, in the order of the numbers from
one. -/
def descriptions : List Text :=
  ["Hangup", "Interrupt", "Quit", "Illegal instruction", "Trace/breakpoint trap", "Aborted",
    "Bus error", "Floating point exception", "Killed", "User defined signal 1",
    "Segmentation fault", "User defined signal 2", "Broken pipe", "Alarm clock", "Terminated",
    "Stack fault", "Child exited", "Continued", "Stopped (signal)", "Stopped",
    "Stopped (tty input)", "Stopped (tty output)", "Urgent I/O condition",
    "CPU time limit exceeded", "File size limit exceeded", "Virtual timer expired",
    "Profiling timer expired", "Window changed", "I/O possible", "Power failure",
    "Bad system call"].map String.toList

/-- The interrupt from the keyboard. -/
def interrupt : Signal := 2
/-- The signal that no process withstands. -/
def kill : Signal := 9
/-- Writing where nobody reads. -/
def brokenPipe : Signal := 13
/-- The request to end. -/
def terminate : Signal := 15
/-- The signal that lets a stopped process go on. -/
def resume : Signal := 18
/-- The signal that stops any process. -/
def stop : Signal := 19

/-- Whether a signal stops a process that does not ask for it. -/
def stops (s : Signal) : Bool := [stop, 20, 21, 22].contains s

/-- What a shell says of a process that a signal ended; nothing of two usual ones. -/
def description (s : Signal) : Text :=
  if s == interrupt || s == brokenPipe then [] else (descriptions[s - 1]?).getD []

/-- The signals that end no process unless it asks for them. -/
def isQuiet (s : Signal) : Bool := [17, resume, 23, 28].contains s

/-- The exit code of a process that a signal ended. -/
def exitCode (s : Signal) : Int := 128 + s

/-- The signal of a name, with or without `SIG` in front, or of a number; zero is the name
and the number of none. -/
def ofText? (t : Text) : Option Signal :=
  match Numeral.natural? t with
  | some n => if n ≤ names.length then some n else none
  | none =>
    let name := (Text.after? "SIG".toList t).getD t
    if name == "EXIT".toList then some 0
    else (names.idxOf? name).map (· + 1)

end Signal

end PerfGate
