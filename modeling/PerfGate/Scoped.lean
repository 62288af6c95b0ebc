import PerfGate.Environment
import PerfGate.Path
import PerfGate.Host

/-!
# Scoped files

What a run changes outside its reports is put back behind it: a private directory is removed
with all it holds, and the configuration of the service under test gets its former content
again, or is removed if there was none.
-/

namespace PerfGate

variable {m : Type → Type} [Monad m] [Files m]

/-! ### Private directories -/

/-- The variables that may name the place of temporary files, the first one that is set
counts. -/
def tempVariables : List Text := ["TMPDIR", "TMP", "TEMP", "TEMPDIR"].map String.toList

/-- The usual place of temporary files. -/
def usualTemp : Text := "/tmp".toList

/-- The place of temporary files in an environment. -/
def tempPlace (env : Environment) : Text := (tempVariables.findSome? env).getD usualTemp

/-- Creates a private directory. -/
def makeTempDirectory [MonadExceptOf Failure m] [Surroundings m] (name : Text) : m Text := do
  let place := tempPlace (.ofEntries (← environment))
  let base := if ← isDirectory place then place else usualTemp
  let template := Path.join base (name ++ ".XXXXXX".toList)
  ofExcept (fun e => .host (.noTempDirectory template e)) (← makeDirectory template)

/-- Runs `body` with a private directory, which is removed behind it. -/
def withTempDirectory [MonadExceptOf Failure m] [Surroundings m] {α : Type} (name : Text)
    (body : Text → m α) : m α := do
  let dir ← makeTempDirectory name
  ensuring (body dir) (removeTree dir)

/-! ### Restored files -/

/-- A file whose former state is known. -/
structure KeptFile where
  /-- The file. -/
  target : Text
  /-- Where its former content is. -/
  backup : Text
  /-- Whether there was a file. -/
  existed : Bool
deriving DecidableEq

namespace KeptFile

/-- The name of the copy with the former content. -/
def backupName : Text := "subject_config.backup".toList

/-- The warning that a file was not restored. -/
def restoreWarning (k : KeptFile) (why : Errno) : Text :=
  "[WARN] failed to restore ".toList ++ Text.untilNul k.target ++ " from ".toList ++
    Text.untilNul k.backup ++ ": ".toList ++ why.message ++ ['\n']

/-- Copies a file to a directory, if there is one. -/
def keep [MonadExceptOf Failure m] (target dir : Text) : m KeptFile := do
  let backup := Path.join dir backupName
  if ← pathExists target then
    if let some e ← copyFile target backup then fail (HostError.backupFailed target e)
    pure { target, backup, existed := true }
  else pure { target, backup, existed := false }

/-- Replaces the content of the file. -/
def write [MonadExceptOf Failure m] (k : KeptFile) (content : Text) : m Unit := do
  if !(← writeFile k.target content) then fail (HostError.fileNotWritten k.target)

/-- Brings back the former state. -/
def restore [Console m] (k : KeptFile) : m Unit := do
  if k.existed then
    if let some e ← copyFile k.backup k.target then warn (k.restoreWarning e)
  else remove k.target

/-- Runs `body` with a file, whose former state is brought back behind it. -/
def guarding [MonadExceptOf Failure m] [Console m] {α : Type} (target dir : Text)
    (body : KeptFile → m α) : m α := do
  let k ← keep target dir
  ensuring (body k) k.restore

end KeptFile

end PerfGate
