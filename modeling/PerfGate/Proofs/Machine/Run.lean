import Mathlib.Tactic.Use
import PerfGate.Machine.Host

/-!
# Runs on a machine

`endOf x m` says how a run that starts on a machine ends, with a value or with a failure, and
what the machine is like then.  A run in parts ends as its parts do; what is to be released is
released however the run ends.  The operations of the host are told as equations.
-/

namespace PerfGate

variable {α β : Type}

/-- How a run ends that starts on a machine, and the machine behind it. -/
def endOf (x : MachineRun α) (m : Machine) : Except Failure α × Machine := x.run.run m

/-! ### Parts of runs -/

section

variable {x : MachineRun α} {f : α → MachineRun β} {m m' : Machine}

theorem endOf_bind (x : MachineRun α) (f : α → MachineRun β) (m : Machine) :
  endOf (x >>= f) m =
    match endOf x m with
    | (.ok a, m') => endOf (f a) m'
    | (.error e, m') => (.error e, m')
  := by
  simp only [endOf, ExceptT.run_bind, StateT.run_bind]
  cases hx : x.run.run m with
  | mk ending m' => cases ending <;> rfl

/-- A run goes on from where its first part ends. -/
theorem endOf_bind_of_ok {a : α} (h : endOf x m = (.ok a, m')) :
  endOf (x >>= f) m = endOf (f a) m'
  := by
  rw [endOf_bind, h]

/-- A failure of the first part ends a run. -/
theorem endOf_bind_of_error {e : Failure} (h : endOf x m = (.error e, m')) :
  endOf (x >>= f) m = (.error e, m')
  := by
  rw [endOf_bind, h]

/-- A run that returns does so in both its parts. -/
theorem exists_of_endOf_bind {b : β} (h : endOf (x >>= f) m = (.ok b, m')) :
  ∃ a m₁, endOf x m = (.ok a, m₁) ∧ endOf (f a) m₁ = (.ok b, m')
  := by
  rw [endOf_bind] at h
  split at h
  · rename_i a m₁ hx
    use a, m₁
  · cases h

/-- A failure that is caught is handled where it came up. -/
theorem endOf_tryCatch (x : MachineRun α) (handle : Failure → MachineRun α) (m : Machine) :
  endOf (tryCatch x handle) m =
    match endOf x m with
    | (.ok a, m') => (.ok a, m')
    | (.error e, m') => endOf (handle e) m'
  := by
  unfold endOf
  rw [ExceptT.run_tryCatch, StateT.run_bind]
  cases hx : x.run.run m with
  | mk ending m' => cases ending <;> rfl

/-- What is released behind a run is released however the run ends. -/
theorem endOf_ensuring {body : MachineRun α} {release : MachineRun Unit} {give : Machine → Machine}
    (hrelease : ∀ m, endOf release m = (.ok (), give m)) (m : Machine) :
  endOf (ensuring body release) m = ((endOf body m).1, give (endOf body m).2)
  := by
  have hcaught : endOf (tryCatch (Except.ok <$> body) fun e => pure (Except.error e)) m =
      (.ok (endOf body m).1, (endOf body m).2) := by
    rw [endOf_tryCatch, map_eq_pure_bind, endOf_bind]
    cases hbody : endOf body m with
    | mk ending m' => cases ending <;> rfl
  unfold ensuring
  rw [endOf_bind_of_ok hcaught, endOf_bind_of_ok (hrelease _)]
  cases (endOf body m).1 <;> rfl

end

/-! ### Operations of the host -/

namespace Machine

/-- The machine after something was written to standard output. -/
def print (words : Text) (m : Machine) : Machine := { m with output := m.output ++ words }

/-- The machine after something was written to standard error. -/
def complain (words : Text) (m : Machine) : Machine := { m with errors := m.errors ++ words }

/-- The machine after a lock was given back. -/
def release (lock : Nat) (m : Machine) : Machine :=
  { m with locks := m.locks.filter (·.1 != lock) }

end Machine

section

variable (m : Machine)

theorem endOf_fail (e : RunError) :
  endOf (fail e : MachineRun α) m = (.error (.gate e), m)
  := rfl

theorem endOf_say (words : Text) :
  endOf (say words) m = (.ok (), m.print words)
  := rfl

theorem endOf_warn (words : Text) :
  endOf (warn words) m = (.ok (), m.complain words)
  := rfl

theorem endOf_interrupted :
  endOf interrupted m = (.ok m.interrupted, m)
  := rfl

theorem endOf_writeFile (path content : Text) :
  endOf (writeFile path content) m =
    match m.files.write m.directory path content with
    | .ok files => (.ok true, { m with files })
    | .error _ => (.ok false, m)
  := by
  have hrun : (Machine.replaceFile path content).run m =
      match m.files.write m.directory path content with
      | .ok files => (true, { m with files })
      | .error _ => (false, m) := by
    unfold Machine.replaceFile
    rw [StateT.run_bind]
    show (match m.files.write m.directory path content with
      | .ok files => do
        set { m with files }
        pure true
      | .error _ => pure false : Act Bool).run m = _
    cases m.files.write m.directory path content <;> rfl
  have hact : endOf (writeFile path content) m =
      (.ok ((Machine.replaceFile path content).run m).1,
        ((Machine.replaceFile path content).run m).2) := rfl
  rw [hact, hrun]
  cases m.files.write m.directory path content <;> rfl

theorem endOf_copyFile (source target : Text) :
  endOf (copyFile source target) m =
    match m.files.copy m.directory source target with
    | .ok files => (.ok none, { m with files })
    | .error e => (.ok (some e), m)
  := by
  have hrun : (Machine.copyTo source target).run m =
      match m.files.copy m.directory source target with
      | .ok files => (none, { m with files })
      | .error e => (some e, m) := by
    unfold Machine.copyTo
    rw [StateT.run_bind]
    show (match m.files.copy m.directory source target with
      | .ok files => do
        set { m with files }
        pure none
      | .error e => pure (some e) : Act (Option Errno)).run m = _
    cases m.files.copy m.directory source target <;> rfl
  have hact : endOf (copyFile source target) m =
      (.ok ((Machine.copyTo source target).run m).1,
        ((Machine.copyTo source target).run m).2) := rfl
  rw [hact, hrun]
  cases m.files.copy m.directory source target <;> rfl

theorem endOf_takeLock (path : Text) :
  endOf (takeLock path) m =
    (.ok ((Machine.lockFile path).run m).1, ((Machine.lockFile path).run m).2)
  := rfl

/-- A lock is held while a run goes on, and given back however the run ends; without the lock
there is no run. -/
theorem endOf_withLock (path : Text) (body : MachineRun α) :
  endOf (withLock path body) m =
    match (Machine.lockFile path).run m with
    | (.ok lock, m₀) => ((endOf body m₀).1, (endOf body m₀).2.release lock)
    | (.error e, m₀) => (.error (.gate (e.error path)), m₀)
  := by
  unfold withLock
  rw [endOf_bind_of_ok (endOf_takeLock m path)]
  cases (Machine.lockFile path).run m with
  | mk taken m₀ =>
    cases taken with
    | error e => rfl
    | ok lock =>
      apply endOf_ensuring
      intro m
      rfl

end

end PerfGate
