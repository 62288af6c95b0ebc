import Mathlib.Logic.Function.Basic
import PerfGate.Rounds

/-!
# Trials

A trial runs a program of the library against a source of rounds that may answer anything,
depending on all the calls made so far, and keeps what the program did: the calls it made, what
it wrote, and the files on its disk.  `Trial.Ends` says how a run ends, with a value or with a
failure, and what the trial looks like then; its rules follow the program.
-/

namespace PerfGate

/-- A disk: what its files hold, at which paths none can be written, and which directories
cannot be created. -/
structure Disk where
  /-- The content of the file at a path. -/
  content : Text → Option Text := fun _ => none
  /-- Whether no file can be written at a path. -/
  sealed : Text → Bool := fun _ => false
  /-- Why a directory cannot be created. -/
  refusal : Text → Option Errno := fun _ => none

/-- Gives a file a content, or none. -/
def Disk.put (path : Text) (t : Option Text) (d : Disk) : Disk :=
  { d with content := Function.update d.content path t }

theorem Disk.content_put (path : Text) (t : Option Text) (d : Disk) :
  (d.put path t).content path = t
  := Function.update_self ..

/-- The state of a trial. -/
structure Trial where
  /-- The calls made of the source: the index of a round and the number of rounds aimed at. -/
  calls : List (Int × Int) := []
  /-- What was written to standard output. -/
  output : Text := []
  /-- What was written to standard error. -/
  errors : Text := []
  /-- The disk. -/
  disk : Disk := {}

/-- A run in a trial. -/
abbrev TrialRun := ExceptT Failure (StateM Trial)

namespace Trial

/-! ### The host of a trial -/

/-- Takes down a call. -/
def note (call : Int × Int) (t : Trial) : Trial := { t with calls := t.calls ++ [call] }

/-- Writes to standard output. -/
def print (words : Text) (t : Trial) : Trial := { t with output := t.output ++ words }

@[simp] theorem calls_note (call : Int × Int) (t : Trial) :
  (t.note call).calls = t.calls ++ [call]
  := rfl

@[simp] theorem disk_note (call : Int × Int) (t : Trial) :
  (t.note call).disk = t.disk
  := rfl

@[simp] theorem calls_print (words : Text) (t : Trial) :
  (t.print words).calls = t.calls
  := rfl

@[simp] theorem disk_print (words : Text) (t : Trial) :
  (t.print words).disk = t.disk
  := rfl

instance : Console TrialRun where
  say words := modify (print words)
  warn words := modify fun t => { t with errors := t.errors ++ words }

/-- Changes what a file holds. -/
def put (path : Text) (words : Option Text) (t : Trial) : Trial :=
  { t with disk := t.disk.put path words }

theorem content_put (path : Text) (words : Option Text) (t : Trial) :
  (t.put path words).disk.content path = words
  := Disk.content_put ..

theorem content_put_of_ne {path other : Text} (h : other ≠ path) (words : Option Text)
    (t : Trial) :
  (t.put path words).disk.content other = t.disk.content other
  := Function.update_of_ne h ..

/-- The files of a trial are plain ones, and every directory is there that can be. -/
instance : Files TrialRun where
  readFile path := do pure (((← get).disk.content path).getD [])
  writeFile path words := do
    if (← get).disk.sealed path then pure false
    else do
      modify (put path (some words))
      pure true
  createDirectories path := do pure ((← get).disk.refusal path)
  copyFile source target := do
    let d := (← get).disk
    if (d.content source).isNone then pure (some .notFound)
    else if d.sealed target then pure (some .denied)
    else do
      modify (put target (d.content source))
      pure none
  isRegularFile path := do pure ((← get).disk.content path).isSome
  isDirectory path := do pure ((← get).disk.refusal path).isNone
  pathExists path := do
    let d := (← get).disk
    pure ((d.content path).isSome || (d.refusal path).isNone)
  mayExecute _ := pure false
  remove path := modify (put path none)
  removeTree path := modify fun t =>
    { t with disk.content := fun p =>
      if Text.startsWith (path ++ ['/']) p then none else t.disk.content p }
  makeDirectory template := do
    pure (match (← get).disk.refusal template with
      | some e => .error e
      | none => .ok template)

/-- What a source answers to the last of the calls made so far. -/
abbrev Behaviour := List (Int × Int) → Except Failure (Round Binary64)

/-- The source with a behaviour. -/
def source (answer : Behaviour) : RoundProducer TrialRun := fun index target => do
  modify (note (index, target))
  match answer (← get).calls with
  | .ok round => pure round
  | .error e => throw e

/-! ### How a run ends -/

variable {α β : Type}

/-- The result of a run that starts in a trial, and the trial behind it. -/
def perform (x : TrialRun α) (t : Trial) : Except Failure α × Trial := x.run.run t

/-- How a run that starts in a trial ends. -/
def Ends (t : Trial) (x : TrialRun α) (good : α → Trial → Prop) (bad : Failure → Trial → Prop) :
    Prop :=
  match perform x t with
  | (.ok a, t') => good a t'
  | (.error e, t') => bad e t'

variable {t : Trial} {x : TrialRun α} {f : α → TrialRun β} {good good' : α → Trial → Prop}
  {bad bad' : Failure → Trial → Prop}

theorem Ends.mono (h : t.Ends x good bad) (hgood : ∀ a t', good a t' → good' a t')
    (hbad : ∀ e t', bad e t' → bad' e t') :
  t.Ends x good' bad'
  := by
  unfold Ends at h ⊢
  split at h
  · apply hgood _ _ h
  · apply hbad _ _ h

/-- How a run ends that returns a value. -/
theorem Ends.exists_of_eq_ok (h : t.Ends x good bad) {a : α} (ha : (perform x t).1 = .ok a) :
  ∃ t', good a t'
  := by
  unfold Ends at h
  split at h
  · rename_i b t' hperform
    rw [hperform] at ha
    obtain rfl := Except.ok.inj ha
    exact ⟨t', h⟩
  · rename_i e t' hperform
    rw [hperform] at ha
    cases ha

theorem ends_pure {a : α} (h : good a t) :
  t.Ends (pure a) good bad
  := h

/-- A run goes on from where its first part ends. -/
theorem Ends.bind {good : β → Trial → Prop} {mid : α → Trial → Prop} (h : t.Ends x mid bad)
    (hf : ∀ a t', mid a t' → t'.Ends (f a) good bad) :
  t.Ends (x >>= f) good bad
  := by
  have hbind : perform (x >>= f) t =
      match perform x t with
      | (.ok a, t') => perform (f a) t'
      | (.error e, t') => (.error e, t') := by
    simp only [perform, ExceptT.run_bind, StateT.run_bind]
    cases hx : x.run.run t with
    | mk result t' =>
      cases result with
      | ok a => rfl
      | error e => rfl
  unfold Ends at h ⊢
  rw [hbind]
  split at h
  · apply hf _ _ h
  · apply h

/-- A run that begins with a value goes on from where it starts. -/
theorem ends_pure_bind {good : β → Trial → Prop} {a : α} (h : t.Ends (f a) good bad) :
  t.Ends (pure a >>= f) good bad
  := h

/-- A run that begins by writing goes on from there. -/
theorem ends_say_bind {words : Text} {f : Unit → TrialRun β} {good : β → Trial → Prop}
    (h : (t.print words).Ends (f ()) good bad) :
  t.Ends (say words >>= f) good bad
  := h

/-- A run that begins by creating directories goes on in the same trial. -/
theorem ends_createDirectories_bind {path : Text} {f : Option Errno → TrialRun β}
    {good : β → Trial → Prop} (h : t.Ends (f (t.disk.refusal path)) good bad) :
  t.Ends (createDirectories path >>= f) good bad
  := h

/-- A run that begins by writing a file goes on with the file, or without it if the path is
sealed. -/
theorem ends_writeFile_bind {path words : Text} {f : Bool → TrialRun β}
    {good : β → Trial → Prop}
    (hdone : t.disk.sealed path = false → (t.put path (some words)).Ends (f true) good bad)
    (hrefused : t.disk.sealed path = true → t.Ends (f false) good bad) :
  t.Ends (writeFile path words >>= f) good bad
  := by
  have hperform : perform (writeFile path words >>= f) t =
      if t.disk.sealed path then perform (f false) t
      else perform (f true) (t.put path (some words)) := by
    show perform ((if t.disk.sealed path then pure false else do
      modify (put path (some words))
      pure true) >>= f) t = _
    split
    · rfl
    · rfl
  unfold Ends at hdone hrefused ⊢
  rw [hperform]
  cases hsealed : t.disk.sealed path with
  | true => apply hrefused hsealed
  | false => apply hdone hsealed

theorem ends_isRegularFile_bind {path : Text} {f : Bool → TrialRun β} {good : β → Trial → Prop}
    (h : t.Ends (f (t.disk.content path).isSome) good bad) :
  t.Ends (isRegularFile path >>= f) good bad
  := h

theorem ends_readFile_bind {path : Text} {f : Text → TrialRun β} {good : β → Trial → Prop}
    (h : t.Ends (f ((t.disk.content path).getD [])) good bad) :
  t.Ends (readFile path >>= f) good bad
  := h

theorem ends_fail {e : RunError} (h : bad (.gate e) t) :
  t.Ends (fail e : TrialRun α) good bad
  := h

theorem ends_ofExcept {ε : Type} {wrap : ε → RunError} {r : Except ε α}
    (hok : ∀ a, r = .ok a → good a t) (herror : ∀ e, r = .error e → bad (.gate (wrap e)) t) :
  t.Ends (ofExcept wrap r) good bad
  := by
  cases r with
  | ok a => apply ends_pure (hok a rfl)
  | error e => apply ends_fail (herror e rfl)

/-- A call of the source is taken down, and answered as the source behaves. -/
theorem ends_source {answer : Behaviour} {index target : Int} {good : Round Binary64 → Trial → Prop}
    (hok : ∀ round, answer (t.calls ++ [(index, target)]) = .ok round →
      good round (t.note (index, target)))
    (herror : ∀ e, answer (t.calls ++ [(index, target)]) = .error e →
      bad e (t.note (index, target))) :
  t.Ends (source answer index target) good bad
  := by
  have hperform : perform (source answer index target) t =
      (answer (t.calls ++ [(index, target)]), t.note (index, target)) := by
    show perform (match answer (t.calls ++ [(index, target)]) with
      | .ok round => pure round
      | .error e => throw e) (t.note (index, target)) = _
    cases answer (t.calls ++ [(index, target)]) with
    | ok round => rfl
    | error e => rfl
  unfold Ends
  rw [hperform]
  cases hanswer : answer (t.calls ++ [(index, target)]) with
  | ok round => apply hok round hanswer
  | error e => apply herror e hanswer

end Trial

end PerfGate
