import PerfGate.Numeral
import PerfGate.Process.Table
import PerfGate.Sampler
import PerfGate.Word

/-!
# The process file system

The readers of the files that the kernel shows for each process.  The name of a process
stands in parentheses in its stat line and may itself hold parentheses and blanks, so the
fields behind it start at the last closing parenthesis.
-/

namespace PerfGate

namespace Procfs

/-- The name in a comm file: its first line, without blanks at the ends. -/
def name? (comm : Text) : Option Text :=
  match Text.rawLines comm with
  | [] => none
  | l :: _ => some (Text.trim l)

/-- The text behind the last closing parenthesis of a stat line. -/
def behindName? (stat : Text) : Option Text := Text.behindLast? ')' stat

/-- The parent in a stat line: the second of the fields behind the name, each behind one
blank. -/
def parent? (stat : Text) : Option Int := do
  let rest ← behindName? stat
  let (_, rest) ← Text.splitFirst? ' ' (rest.drop 1)
  Numeral.integer? (rest.takeWhile (· != ' '))

/-- A count of clock ticks, which is not negative. -/
def ticks? (field : Text) : Option Nat :=
  ((Numeral.integer? field).filter (0 ≤ ·)).map Int.toNat

/-- The clock ticks in a stat line: user and system time, the twelfth and the thirteenth of
the fields behind the name. -/
def cpuTicks? (stat : Text) : Option Nat := do
  let fields := Text.words (← behindName? stat)
  let user ← ticks? (← fields[11]?)
  let system ← ticks? (← fields[12]?)
  some (user + system)

/-- The mark of the line with the peak resident memory. -/
def peakMark : Text := "VmHWM:".toList

/-- The peak resident memory in a status file, in kilobytes: the number on the first line
with the mark. -/
def peakRssKb? (status : Text) : Option Int := do
  let value ← (Text.lines status).findSome? (Text.after? peakMark)
  Numeral.integer? ((Text.trim value).takeWhile (· != ' '))

/-! ### Directories of processes -/

/-- What a directory shows of a process. -/
structure Entry where
  /-- The name of its directory, which is its number. -/
  name : Text
  /-- Its stat file, empty if there is none. -/
  stat : Text
  /-- Its comm file. -/
  comm : Option Text
deriving DecidableEq

/-- Whether an entry is a child of a process. -/
def Entry.isChildOf (e : Entry) (pid : Pid) : Bool := parent? e.stat == some pid

/-- The children of a process among some entries, in the order of their numbers.  Names that
are no numbers are passed over. -/
def children (es : List Entry) (pid : Pid) : List Pid :=
  (es.filterMap fun e =>
    match Numeral.integer? e.name with
    | some n => if e.isChildOf pid then some (wrap32 n) else none
    | none => none).mergeSort

/-- The processes that some entries show. -/
def tree (es : List Entry) : ProcessTable where
  name? pid := (es.find? (·.name == Decimal.signed pid)).bind fun e => e.comm.bind name?
  children := children es

/-- The reading that an entry and its status file give. -/
def reading (stat status : Text) : Reading where
  ticks := cpuTicks? stat
  rssKb := peakRssKb? status

end Procfs

end PerfGate
