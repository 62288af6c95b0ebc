import PerfGate.Environment
import PerfGate.Host
import PerfGate.Path

/-!
# Search for programs

A program whose name holds a slash is a path.  Any other is looked for in the directories of
the search path, in order; an empty one stands for the working directory.
-/

namespace PerfGate

namespace Path

/-- The directories that are searched if the environment names none. -/
def defaultSearch : Text := "/usr/local/bin:/usr/bin:/bin".toList

/-- The directories of a search path. -/
def searchDirectories (search : Text) : List Text :=
  (Text.pieces (· == ':') search).map fun dir => if dir.isEmpty then ['.'] else dir

/-- The paths at which a program may be, in the order in which they are tried. -/
def candidates (search program : Text) : List Text :=
  if program.isEmpty then []
  else if program.contains '/' then [program]
  else (searchDirectories search).map fun dir => dir ++ '/' :: program

/-- The search path of an environment. -/
def searchPath (env : Environment) : Text := (env "PATH".toList).getD defaultSearch

end Path

variable {m : Type → Type} [Monad m] [Files m]

/-- Whether a path is something that may be executed and is no directory. -/
def isExecutable (path : Text) : m Bool := do
  if ← mayExecute path then pure !(← isDirectory path) else pure false

/-- The first of some paths that is a file which may be executed. -/
def firstExecutable? : List Text → m (Option Text)
  | [] => pure none
  | path :: paths => do
    if ← isExecutable path then pure (some path) else firstExecutable? paths

/-- Where a program is found on a search path. -/
def locateOn? (search program : Text) : m (Option Text) :=
  firstExecutable? (Path.candidates search program)

/-- Where a program is found. -/
def locate? [Surroundings m] (program : Text) : m (Option Text) := do
  locateOn? (Path.searchPath (.ofEntries (← environment))) program

/-- Ends with an error if a program is not found; `role` says what it is for. -/
def demandProgram [MonadExceptOf Failure m] [Surroundings m] (program role : Text) :
    m Unit := do
  if (← locate? program).isNone then fail (HostError.toolMissing role program)

end PerfGate
