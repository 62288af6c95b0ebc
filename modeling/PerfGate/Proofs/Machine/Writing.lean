import PerfGate.Proofs.Machine.FileTree
import PerfGate.Proofs.Machine.Run

/-!
# What a run writes

A run writes some paths only if it stays in its directory, and whatever it changes is a new
directory or a file that one of the paths leads to (`Writes`).  A run in parts does if its parts
do.  A file that no part of a run writes holds what it held.
-/

namespace PerfGate

namespace Machine

/-! ### Between two machines -/

/-- Whether one machine came from another by writing files that some paths lead to, and by
creating directories. -/
structure WritesTo (paths : Text → Prop) (m m' : Machine) : Prop where
  /-- The directory is the same. -/
  directory : m'.directory = m.directory
  /-- No other file was written. -/
  changes :
    FileTree.Changes (fun p => ∃ path, paths path ∧ m'.files.place m'.directory path = .ok p)
      m.files m'.files

variable {paths : Text → Prop} {m m' m'' : Machine}

theorem WritesTo.refl (paths : Text → Prop) (m : Machine) :
  WritesTo paths m m
  := ⟨rfl, FileTree.Changes.refl _ _⟩

theorem WritesTo.trans (h : WritesTo paths m m') (h' : WritesTo paths m' m'') :
  WritesTo paths m m''
  := by
  constructor
  · rw [h'.directory, h.directory]
  · apply FileTree.Changes.trans _ h'.changes
    apply h.changes.mono
    rintro p ⟨path, hpath, hplace⟩
    -- a path that led to a place still does
    use path, hpath
    rw [h'.directory]
    apply h'.changes.place hplace

/-- Whether a path leads to a place with a regular file that holds a text. -/
structure Holds (m : Machine) (path : Text) (p : Place) (content : Text) : Prop where
  /-- The path leads to the place. -/
  place : m.files.place m.directory path = .ok p
  /-- The path does not ask for a directory. -/
  slash : FileTree.wantsDirectory (Text.untilNul path) = false
  /-- The file is there. -/
  file : ∃ mode, m.files.at? p = some (.file content mode)

variable {path content : Text} {p : Place}

theorem Holds.content? (h : m.Holds path p content) :
  m.files.content? m.directory path = .ok content
  := by
  obtain ⟨mode, hfile⟩ := h.file
  apply FileTree.content?_of_place h.place h.slash hfile

/-- What a file holds stays if its place is not written. -/
theorem Holds.mono (h : m.Holds path p content) {mayWrite : Place → Prop}
    (hdirectory : m'.directory = m.directory)
    (hchanges : FileTree.Changes mayWrite m.files m'.files) (hp : ¬ mayWrite p) :
  m'.Holds path p content
  := by
  obtain ⟨mode, hfile⟩ := h.file
  constructor
  · rw [hdirectory]
    apply hchanges.place h.place
  · apply h.slash
  · use mode
    apply hchanges.node hp hfile

end Machine

/-! ### Runs -/

section

variable {α β : Type} {paths : Text → Prop}

/-- Whether a run, from wherever it starts and however it ends, writes files that some paths lead
to and no others. -/
def Writes (paths : Text → Prop) (x : MachineRun α) : Prop :=
  ∀ m, Machine.WritesTo paths m (endOf x m).2

theorem Writes.bind {x : MachineRun α} {f : α → MachineRun β} (hx : Writes paths x)
    (hf : ∀ a, Writes paths (f a)) :
  Writes paths (x >>= f)
  := by
  intro m
  have hfirst := hx m
  rw [endOf_bind]
  cases hend : endOf x m with
  | mk ending m' =>
    rw [hend] at hfirst
    cases ending with
    | ok a => apply hfirst.trans (hf a m')
    | error e => apply hfirst

theorem writes_pure (a : α) :
  Writes paths (pure a)
  := fun m => Machine.WritesTo.refl paths m

theorem writes_throw (e : Failure) :
  Writes paths (throw e : MachineRun α)
  := fun m => Machine.WritesTo.refl paths m

/-- What would come after an error is not run. -/
theorem writes_fail_bind (e : RunError) (f : α → MachineRun β) :
  Writes paths ((fail e : MachineRun α) >>= f)
  := by
  intro m
  rw [endOf_bind_of_error (endOf_fail m e)]
  apply Machine.WritesTo.refl

theorem writes_createDirectories (path : Text) :
  Writes paths (createDirectories path)
  := by
  intro m
  constructor
  · rfl
  · apply FileTree.changes_makeDirectories

theorem writes_writeFile {path : Text} (hpath : paths path) (content : Text) :
  Writes paths (writeFile path content)
  := by
  intro m
  rw [endOf_writeFile]
  cases hwrite : m.files.write m.directory path content with
  | error e => apply Machine.WritesTo.refl
  | ok files =>
    have hchanges := FileTree.changes_write hwrite
    constructor
    · rfl
    · apply hchanges.mono
      intro p hplace
      use path, hpath
      apply hchanges.place hplace

end

end PerfGate
