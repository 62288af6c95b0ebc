import PerfGate.Error

/-!
# The host

What the gate asks of the machine it runs on.  Programs of the library are written over any
monad with these operations; a simulated machine, or a model of one part of it, gives them
their meaning.
-/

namespace PerfGate

/-- The two output streams. -/
class Console (m : Type → Type) where
  /-- Writes to standard output. -/
  say : Text → m Unit
  /-- Writes to standard error. -/
  warn : Text → m Unit

/-- The file system. -/
class Files (m : Type → Type) where
  /-- The content of a file, empty if it cannot be read. -/
  readFile : Text → m Text
  /-- Replaces the content of a file, and creates it if needed; false if that fails. -/
  writeFile : Text → Text → m Bool
  /-- Creates a directory with all those above it. -/
  createDirectories : Text → m (Option Errno)
  /-- Copies a file over another or to a new place. -/
  copyFile : (source target : Text) → m (Option Errno)
  /-- Whether there is a regular file. -/
  isRegularFile : Text → m Bool
  /-- Whether there is a directory. -/
  isDirectory : Text → m Bool
  /-- Whether there is anything at a path. -/
  pathExists : Text → m Bool
  /-- Whether there is something that may be executed; that can be a directory. -/
  mayExecute : Text → m Bool
  /-- Removes a file or an empty directory, if there is one. -/
  remove : Text → m Unit
  /-- Removes a directory with all it holds. -/
  removeTree : Text → m Unit
  /-- Creates a directory whose name is a template with other characters in the stead of the
  last six. -/
  makeDirectory : Text → m (Except Errno Text)

/-- Why a lock was not taken. -/
inductive LockRefusal where
  /-- Its file cannot be opened. -/
  | notOpened (why : Errno)
  /-- Another open file holds it. -/
  | held
  /-- It cannot be locked. -/
  | failed (why : Errno)
deriving DecidableEq

/-- The error of a lock that was not taken. -/
def LockRefusal.error (path : Text) : LockRefusal → HostError
  | .notOpened e => .lockNotOpened path e
  | .held => .lockHeld path
  | .failed e => .lockFailed path e

/-- Exclusive locks on files. -/
class Locks (m : Type → Type) where
  /-- Opens a file, which is created if needed, and locks it without waiting. -/
  takeLock : Text → m (Except LockRefusal Nat)
  /-- Gives a lock back and closes its file. -/
  releaseLock : Nat → m Unit

/-- Interruption of the whole invocation by a signal. -/
class Interruption (m : Type → Type) where
  /-- Whether an interrupting signal has come in. -/
  interrupted : m Bool

/-- Time in milliseconds. -/
class Clock (m : Type → Type) where
  /-- The time since the machine came up. -/
  now : m Nat
  /-- Lets time go by. -/
  sleep : Nat → m Unit

/-- What an invocation finds on its machine. -/
class Surroundings (m : Type → Type) where
  /-- The entries of the environment. -/
  environment : m (List Text)
  /-- How many processors there are. -/
  processors : m Int
  /-- The name of the machine. -/
  hostName : m Text
  /-- The seconds since 1970 began. -/
  wallClock : m Nat

/-- Connections. -/
class Network (m : Type → Type) where
  /-- Whether an address takes a connection at a port. -/
  connects : (address : Text) → (port : Nat) → m Bool

export Console (say warn)
export Files (readFile writeFile createDirectories copyFile isRegularFile isDirectory pathExists
  mayExecute remove removeTree makeDirectory)
export Locks (takeLock releaseLock)
export Interruption (interrupted)
export Clock (now sleep)
export Surroundings (environment processors hostName wallClock)
export Network (connects)

variable {m : Type → Type} [Monad m] [MonadExceptOf Failure m]

/-- Ends with an error. -/
def fail {α : Type} (e : RunError) : m α := throw (Failure.gate e)

/-- The value of a computation, or its error. -/
def ofExcept {ε α : Type} (wrap : ε → RunError) : Except ε α → m α
  | .ok a => pure a
  | .error e => fail (wrap e)

/-- Runs `body` and then, however it ended, `release`. -/
def ensuring {α : Type} (body : m α) (release : m Unit) : m α := do
  let result ← try Except.ok <$> body catch e => pure (Except.error e)
  release
  match result with
  | .ok a => pure a
  | .error e => throw (e : Failure)

/-- Runs `body` while the lock on a file is held. -/
def withLock [Locks m] {α : Type} (path : Text) (body : m α) : m α := do
  let lock ← ofExcept (fun e => .host (e.error path)) (← takeLock path)
  ensuring body (releaseLock lock)

/-- Ends with an error if an interrupting signal has come in. -/
def checkInterruption [Interruption m] : m Unit := do
  if ← interrupted then fail RoundError.interrupted

end PerfGate
