import PerfGate.Machine.FileTree
import PerfGate.Proofs.Fallible

/-!
# What changes a file tree, and where

Writing, copying and creating directories change a tree at few places, and never put anything in
the stead of a directory (`FileTree.Changes`).  So a path that leads somewhere goes on to lead
there, and what a file holds stays until something is written at its place.
-/

namespace PerfGate

namespace FileTree

/-! ### One place -/

theorem lookup_map_replace (nodes : List (Place × Node)) (p : Place) (n : Node) (q : Place) :
  (nodes.map fun (r, o) => if r == p then (r, n) else (r, o)).lookup q =
    if q = p then (nodes.lookup p).map fun _ => n else nodes.lookup q
  := by
  induction nodes with
  | nil => simp
  | cons entry nodes ih =>
    obtain ⟨r, o⟩ := entry
    have hhead : (if r == p then (r, n) else (r, o)) = (r, if r = p then n else o) := by
      by_cases hr : r = p
      · simp [hr]
      · simp [hr]
    rw [List.map_cons]
    dsimp only
    rw [hhead, List.lookup_cons, List.lookup_cons, List.lookup_cons, ih]
    by_cases hq : q = p
    · subst hq
      by_cases hr : q = r
      · simp [hr]
      · simp [beq_eq_false_iff_ne.2 hr]
    · by_cases hr : q = r
      · subst hr
        simp [hq]
      · simp [hq, beq_eq_false_iff_ne.2 hr]

theorem lookup_isSome (nodes : List (Place × Node)) (p : Place) :
  (nodes.lookup p).isSome = nodes.any (·.1 == p)
  := by
  induction nodes with
  | nil => rfl
  | cons entry nodes ih =>
    obtain ⟨r, o⟩ := entry
    rw [List.lookup_cons, List.any_cons, ← ih]
    by_cases hr : p = r
    · simp [hr]
    · simp [beq_eq_false_iff_ne.2 hr, beq_eq_false_iff_ne.2 (Ne.symm hr)]

/-- A node that is put at a place is there, and every other place is as before. -/
theorem at?_put (t : FileTree) {p : Place} (hp : p ≠ []) (n : Node) (q : Place) :
  (t.put p n).at? q = if q = p then some n else t.at? q
  := by
  have hlookup : (t.put p n).nodes.lookup q = if q = p then some n else t.nodes.lookup q := by
    have hsome := lookup_isSome t.nodes p
    unfold put
    split
    · rename_i hany
      rw [hany] at hsome
      obtain ⟨o, ho⟩ := Option.isSome_iff_exists.1 hsome
      rw [lookup_map_replace, ho]
      rfl
    · rename_i hany
      rw [Bool.not_eq_true] at hany
      rw [hany, Option.isSome_eq_false_iff, Option.isNone_iff_eq_none] at hsome
      rw [List.lookup_append, List.lookup_cons, List.lookup_nil]
      by_cases hq : q = p
      · simp [hq, hsome]
      · simp [hq, beq_eq_false_iff_ne.2 hq]
  unfold at?
  rw [hlookup]
  by_cases hq : q = []
  · simp [hq, Ne.symm hp]
  · simp [hq]

/-! ### Changes -/

/-- Whether a tree came from another by creating directories where nothing was, and by writing
files at some places that are no directories. -/
def Changes (mayWrite : Place → Prop) (t t' : FileTree) : Prop :=
  ∀ p, t'.at? p = t.at? p ∨ t.at? p = none ∧ t'.at? p = some .directory
    ∨ mayWrite p ∧ t.at? p ≠ some .directory ∧ ∃ content mode, t'.at? p = some (.file content mode)

section

variable {mayWrite mayWrite' : Place → Prop} {t t' t'' : FileTree}

theorem Changes.refl (mayWrite : Place → Prop) (t : FileTree) :
  Changes mayWrite t t
  := fun _ => .inl rfl

theorem Changes.mono (h : Changes mayWrite t t') (hle : ∀ p, mayWrite p → mayWrite' p) :
  Changes mayWrite' t t'
  := by
  intro p
  rcases h p with hsame | hnew | ⟨hp, hfile⟩
  · left
    apply hsame
  · right
    left
    apply hnew
  · right
    right
    use hle p hp

/-- Directories stay. -/
theorem Changes.directory (h : Changes mayWrite t t') {p : Place} (hp : t.at? p = some .directory) :
  t'.at? p = some .directory
  := by
  rcases h p with hsame | ⟨-, hnew⟩ | ⟨-, hno, -⟩
  · rw [hsame, hp]
  · apply hnew
  · cases hno hp

/-- What is at a place that may not be written stays. -/
theorem Changes.node (h : Changes mayWrite t t') {p : Place} (hp : ¬ mayWrite p) {n : Node}
    (hn : t.at? p = some n) :
  t'.at? p = some n
  := by
  rcases h p with hsame | ⟨hnone, -⟩ | ⟨hwrite, -⟩
  · rw [hsame, hn]
  · cases hnone.symm.trans hn
  · cases hp hwrite

theorem Changes.trans (h : Changes mayWrite t t') (h' : Changes mayWrite t' t'') :
  Changes mayWrite t t''
  := by
  intro p
  rcases h' p with hsame' | ⟨hnone', hnew'⟩ | ⟨hp, hno', hfile'⟩
  · rw [hsame']
    apply h p
  · -- what is missing in between was missing before
    right
    left
    rcases h p with hsame | ⟨-, hnew⟩ | ⟨-, -, content, mode, hfile⟩
    · rw [← hsame]
      use hnone'
    · cases hnone'.symm.trans hnew
    · cases hnone'.symm.trans hfile
  · right
    right
    use hp
    constructor
    · intro hdirectory
      apply hno' (h.directory hdirectory)
    · apply hfile'

/-! ### Paths -/

theorem entryRefusal?_eq_none_iff {p : Place} :
  t.entryRefusal? p = none ↔ t.at? p = some .directory
  := by
  unfold entryRefusal?
  split <;> simp_all

/-- The place behind a name: the same for one dot, the one above for two. -/
def stepTo (p : Place) (name : Text) : Place :=
  if name = ['.'] then p else if name = ['.', '.'] then p.dropLast else p ++ [name]

/-- Whether a name can be followed. -/
def fits (name : Text) : Prop :=
  name = ['.'] ∨ name = ['.', '.'] ∨ byteCount name ≤ nameLimit

/-- Names lead on from directories only. -/
theorem follow_cons_eq_ok_iff {p q : Place} {name : Text} {names : List Text} :
  t.follow p (name :: names) = .ok q ↔
    t.at? p = some .directory ∧ fits name ∧ t.follow (stepTo p name) names = .ok q
  := by
  rw [FileTree.follow, ← entryRefusal?_eq_none_iff]
  cases t.entryRefusal? p with
  | some e => simp
  | none =>
    unfold fits stepTo
    by_cases hdot : name = ['.']
    · simp [hdot]
    · by_cases hdots : name = ['.', '.']
      · simp [hdots]
      · by_cases hlong : nameLimit < byteCount name
        · simp [hdot, hdots, hlong, Nat.not_le.2 hlong]
        · simp [hdot, hdots, hlong, Nat.not_lt.1 hlong]

/-- Names that lead to a place go on to lead there. -/
theorem Changes.follow (h : Changes mayWrite t t') {names : List Text} {p q : Place}
    (hq : t.follow p names = .ok q) :
  t'.follow p names = .ok q
  := by
  induction names generalizing p with
  | nil => apply hq
  | cons name names ih =>
    obtain ⟨hdirectory, hfits, hq⟩ := follow_cons_eq_ok_iff.1 hq
    apply follow_cons_eq_ok_iff.2
    use h.directory hdirectory, hfits, ih hq

/-- The last name that is followed is the last of the place, unless it is made of dots. -/
theorem getLast?_of_follow {names : List Text} {name : Text} {p q : Place}
    (hq : t.follow p (names ++ [name]) = .ok q) (hdot : name ≠ ['.']) (hdots : name ≠ ['.', '.']) :
  q.getLast? = some name
  := by
  induction names generalizing p with
  | nil =>
    obtain ⟨-, -, hq⟩ := follow_cons_eq_ok_iff.1 hq
    obtain rfl := Except.ok.inj hq
    rw [stepTo, if_neg hdot, if_neg hdots, List.getLast?_concat]
  | cons first names ih =>
    obtain ⟨-, -, hq⟩ := follow_cons_eq_ok_iff.1 hq
    apply ih hq

/-- A path that leads to a place goes on to lead there. -/
theorem Changes.place (h : Changes mayWrite t t') {cwd : Place} {path : Text} {p : Place}
    (hp : t.place cwd path = .ok p) :
  t'.place cwd path = .ok p
  := by
  unfold FileTree.place at hp ⊢
  dsimp only at hp ⊢
  split at hp
  · cases hp
  · rename_i hempty
    rw [if_neg hempty]
    apply h.follow hp

/-! ### Opening, writing and copying -/

theorem ne_nil_of_at?_ne {p : Place} (h : t.at? p ≠ some .directory) :
  p ≠ []
  := by
  rintro rfl
  exact h rfl

/-- A file that was opened is at the place of its path, and empty if nothing was there. -/
theorem openFile_eq_ok {cwd p : Place} {path : Text} (h : t.openFile cwd path = .ok (p, t')) :
  t.place cwd path = .ok p ∧ wantsDirectory (Text.untilNul path) = false
    ∧ t.at? p ≠ some .directory
    ∧ (t.at? p ≠ none ∧ t' = t ∨ t.at? p = none ∧ t' = t.put p (.file [] newFileMode))
  := by
  obtain ⟨q, hplace, h⟩ := exists_ok_of_bind_eq_ok h
  split at h
  · cases h
  · rename_i n hdirectory hnode
    split at h
    · cases h
    · rename_i hslash
      obtain ⟨rfl, rfl⟩ := Prod.mk.inj (Except.ok.inj h)
      have hne : t.at? q ≠ none := by simp [hnode]
      have hno : t.at? q ≠ some .directory := by simpa [hnode] using hdirectory
      use hplace, by simpa using hslash, hno, .inl ⟨hne, rfl⟩
  · rename_i hnone
    split at h
    · cases h
    · rename_i hslash
      split at h
      · cases h
      · obtain ⟨rfl, rfl⟩ := Prod.mk.inj (Except.ok.inj h)
        have hdirectory : t.at? q ≠ some .directory := by simp [hnone]
        use hplace, by simpa using hslash, hdirectory, .inr ⟨hnone, rfl⟩

/-- What can be opened can be written. -/
theorem exists_write_of_openFile {cwd : Place} {path : Text}
    (h : (t.openFile cwd path).isOk = true) (content : Text) :
  ∃ t', t.write cwd path content = .ok t'
  := by
  unfold write
  cases hopen : t.openFile cwd path with
  | error e =>
    rw [hopen] at h
    cases h
  | ok found => exact ⟨_, rfl⟩

/-- A file that was written is at the place of its path and holds what was written, if it is a
regular file; every other place is as before. -/
theorem write_eq_ok {cwd : Place} {path content : Text} (h : t.write cwd path content = .ok t') :
  ∃ p, t.place cwd path = .ok p ∧ t.at? p ≠ some .directory ∧ (∀ q ≠ p, t'.at? q = t.at? q)
    ∧ (t'.at? p = t.at? p ∧ t.at? p ≠ none ∧ (∀ c mode, t.at? p ≠ some (.file c mode))
      ∨ ∃ mode, t'.at? p = some (.file content mode))
  := by
  obtain ⟨⟨p, t₁⟩, hopen, h⟩ := exists_ok_of_bind_eq_ok h
  obtain ⟨hplace, -, hdirectory, hnew⟩ := openFile_eq_ok hopen
  obtain rfl := Except.ok.inj h
  have hp := ne_nil_of_at?_ne hdirectory
  use p, hplace, hdirectory
  have hother : ∀ q ≠ p, t₁.at? q = t.at? q := by
    intro q hq
    rcases hnew with ⟨-, rfl⟩ | ⟨-, rfl⟩
    · rfl
    · rw [at?_put t hp, if_neg hq]
  unfold setContent
  split
  · rename_i c mode hfile
    constructor
    · intro q hq
      rw [at?_put t₁ hp, if_neg hq, hother q hq]
    · right
      use mode
      rw [at?_put t₁ hp, if_pos rfl]
  · rename_i hfile
    use hother
    left
    rcases hnew with ⟨hne, rfl⟩ | ⟨-, rfl⟩
    · use rfl, hne, hfile
    · cases hfile [] newFileMode (by rw [at?_put t hp, if_pos rfl])

/-- A copy reads a regular file and opens its target. -/
theorem exists_of_copy {cwd : Place} {source target : Text}
    (h : t.copy cwd source target = .ok t') :
  ∃ content mode p t₁, t.stat cwd source = .ok (.file content mode)
    ∧ t.openFile cwd target = .ok (p, t₁) ∧ t' = t₁.put p (.file content mode)
  := by
  unfold copy at h
  dsimp only at h
  split at h
  case h_4 => cases h
  -- what is at the target decides only whether it may be replaced
  all_goals
    obtain ⟨there, -, h⟩ := exists_ok_of_bind_eq_ok h
    obtain ⟨n, hsource, h⟩ := exists_ok_of_bind_eq_ok h
    split at h
    · rename_i content mode
      split at h
      · cases h
      · obtain ⟨_, -, h⟩ := exists_ok_of_bind_eq_ok h
        obtain ⟨_, -, h⟩ := exists_ok_of_bind_eq_ok h
        split at h
        · cases h
        · obtain ⟨⟨p, t₁⟩, hopen, h⟩ := exists_ok_of_bind_eq_ok h
          use content, mode, p, t₁, hsource, hopen, (Except.ok.inj h).symm
    · cases h

theorem content?_of_stat {cwd : Place} {path content : Text} {mode : Nat}
    (h : t.stat cwd path = .ok (.file content mode)) :
  t.content? cwd path = .ok content
  := by
  unfold content?
  rw [h]
  rfl

/-- A file is read at the place of its path. -/
theorem content?_of_place {cwd p : Place} {path content : Text} {mode : Nat}
    (hplace : t.place cwd path = .ok p) (hslash : wantsDirectory (Text.untilNul path) = false)
    (hfile : t.at? p = some (.file content mode)) :
  t.content? cwd path = .ok content
  := by
  have hstat : t.stat cwd path = .ok (.file content mode) := by
    simp only [stat, hplace, Except.bind, bind, hfile, hslash, Bool.false_and,
      Bool.false_eq_true, if_false]
  apply content?_of_stat hstat

/-- A file that was copied is at the place of its path and holds what the other one holds; every
other place is as before. -/
theorem copy_eq_ok {cwd : Place} {source target : Text} (h : t.copy cwd source target = .ok t') :
  ∃ p content mode, t.content? cwd source = .ok content ∧ t.place cwd target = .ok p
    ∧ wantsDirectory (Text.untilNul target) = false ∧ t.at? p ≠ some .directory
    ∧ ∀ q, t'.at? q = if q = p then some (.file content mode) else t.at? q
  := by
  obtain ⟨content, mode, p, t₁, hsource, hopen, rfl⟩ := exists_of_copy h
  obtain ⟨hplace, hslash, hdirectory, hnew⟩ := openFile_eq_ok hopen
  have hp := ne_nil_of_at?_ne hdirectory
  use p, content, mode, content?_of_stat hsource, hplace, hslash, hdirectory
  intro q
  rw [at?_put t₁ hp]
  by_cases hq : q = p
  · rw [if_pos hq, if_pos hq]
  · rw [if_neg hq, if_neg hq]
    rcases hnew with ⟨-, rfl⟩ | ⟨-, rfl⟩
    · rfl
    · rw [at?_put t hp, if_neg hq]

/-! ### Directories -/

/-- Creating directories changes nothing else. -/
theorem changes_makeAlong (mayWrite : Place → Prop) (t : FileTree) (p : Place)
    (names : List Text) :
  Changes mayWrite t (t.makeAlong p names).1
  := by
  induction names generalizing t p with
  | nil => apply Changes.refl
  | cons name names ih =>
    rw [makeAlong]
    split
    · apply ih
    · split
      · apply ih
      · split
        · apply Changes.refl
        · dsimp only
          split
          · apply ih
          · apply Changes.refl
          · rename_i hnone
            apply Changes.trans _ (ih _ _)
            intro q
            rw [at?_put t (by simp)]
            by_cases hq : q = p ++ [name]
            · right
              left
              rw [if_pos hq, hq]
              use hnone
            · left
              rw [if_neg hq]

theorem changes_makeDirectories (mayWrite : Place → Prop) (t : FileTree) (cwd : Place)
    (path : Text) :
  Changes mayWrite t (t.makeDirectories cwd path).1
  := by
  unfold makeDirectories
  dsimp only
  split
  · apply Changes.refl
  · split
    · split
      · apply Changes.refl
      · apply changes_makeAlong
    · split
      · apply Changes.refl
      · apply changes_makeAlong

theorem changes_write {cwd : Place} {path content : Text}
    (h : t.write cwd path content = .ok t') :
  Changes (fun p => t.place cwd path = .ok p) t t'
  := by
  obtain ⟨p, hplace, hdirectory, hother, hp⟩ := write_eq_ok h
  intro q
  by_cases hq : q = p
  · subst hq
    rcases hp with ⟨hsame, -⟩ | ⟨mode, hfile⟩
    · left
      apply hsame
    · right
      right
      use hplace, hdirectory, content, mode
  · left
    apply hother q hq

/-- The path of a file that was written leads to it, and a regular file holds what was written. -/
theorem exists_place_of_write {cwd : Place} {path content : Text}
    (h : t.write cwd path content = .ok t') :
  ∃ p, t'.place cwd path = .ok p
    ∧ ∀ held mode, t'.at? p = some (.file held mode) → held = content
  := by
  obtain ⟨p, hplace, -, -, hp⟩ := write_eq_ok h
  use p, (changes_write h).place hplace
  intro held mode hfile
  rcases hp with ⟨hsame, -, hdevice⟩ | ⟨mode', hfile'⟩
  · cases hdevice held mode (hsame.symm.trans hfile)
  · rw [hfile', Option.some_inj, Node.file.injEq] at hfile
    rw [hfile.1]

theorem changes_copy {cwd : Place} {source target : Text}
    (h : t.copy cwd source target = .ok t') :
  Changes (fun p => t.place cwd target = .ok p) t t'
  := by
  obtain ⟨p, content, mode, -, hplace, -, hdirectory, hat⟩ := copy_eq_ok h
  intro q
  rw [hat]
  by_cases hq : q = p
  · subst hq
    right
    right
    rw [if_pos rfl]
    use hplace, hdirectory, content, mode
  · left
    rw [if_neg hq]

end

end FileTree

end PerfGate
