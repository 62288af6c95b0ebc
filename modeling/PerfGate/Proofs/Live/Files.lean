import PerfGate.Proofs.Live.Scopes
import PerfGate.Proofs.Machine.Trail
import PerfGate.Proofs.Text.Decimal

/-!
# The files of a live run

What the exchanges of a run make of a file tree, where creating and writing may fail, and bringing
back and removing do not.  Other invocations may try to take the run lock at any time, which creates
its file.  The configuration of the service under test is copied to a private directory in which
nothing else is written to the place of the copy; so it is found as it was when the run is over, and
the private directory is not.
-/

namespace PerfGate

namespace Request

/-- Whether a request is about no lock. -/
def isLockFree : Request → Bool
  | takeLock _ | releaseLock _ => false
  | _ => true

theorem isLockFree_of_isInert {q : Request} (h : q.isInert = true) :
  q.isLockFree = true
  := by
  cases q <;> first | rfl | cases h

theorem isLockFree_of_keepsTo {paths : Text → Prop} {ports : Text → Nat → Prop} {q : Request}
    (h : q.KeepsTo paths ports) :
  q.isLockFree = true
  := by
  cases q <;> first | rfl | cases h

end Request

namespace Live

open FileTree Protocol

/-! ### Files and exchanges -/

/-- Where a run takes place. -/
structure Ground where
  /-- The working directory. -/
  cwd : Place
  /-- The file of the run lock. -/
  lock : Text
  /-- The configuration of the service under test. -/
  config : Text
  /-- Whether the settings name a path. -/
  named : Text → Prop
  /-- Whether no result is written to the place of the configuration behind a run of services. -/
  spared : Prop
  /-- They name the file of the run lock. -/
  lock_named : named lock
  /-- They name the configuration of the service under test. -/
  config_named : named config

/-- The files that a run finds. -/
structure Site where
  /-- The file system. -/
  files : FileTree
  /-- The private directories that the run has created, the last one first. -/
  dirs : List Text := []

namespace Ground

variable (g : Ground)

/-- Whether a tree comes from another by attempts of others to take the run lock. -/
def Stirs (t t' : FileTree) : Prop :=
  t' = t ∨ ∃ p, t.openFile g.cwd g.lock = .ok (p, t')

/-- Whether a tree comes from another by an attempt to write a file, which may fail at any point. -/
def Touches (path : Text) (t t' : FileTree) : Prop :=
  t' = t ∨ ∃ content, t.write g.cwd path content = .ok t'

/-- The copy of a kept file in a private directory. -/
def backup (dir : Text) : Text := Path.join dir KeptFile.backupName

/-- Whether a private directory is not on the way of any path that the settings name. -/
structure Owns (dir : Text) : Prop where
  /-- It has a name. -/
  ne_nil : dir ≠ []
  /-- The name holds no NUL. -/
  nul_notMem : '\x00' ∉ dir
  /-- The paths that the settings name lead past it. -/
  avoids : ∀ path, g.named path → Avoids (goal g.cwd dir) g.cwd path

/-- Whether a tree comes from another by an exchange.  A private directory is new, and its name is
known to nobody beforehand; a copy from there does not fail, and neither does a removal. -/
def Follows (dirs : List Text) (t : FileTree) : Exchange → FileTree → Prop
  | ⟨.writeFile path content, true⟩, t' => t.write g.cwd path content = .ok t'
  | ⟨.writeFile path _, false⟩, t' => g.Touches path t t'
  | ⟨.createDirectories _, _⟩, t' => Changes (fun _ => False) t t'
  | ⟨.copyFile source target, none⟩, t' => t.copy g.cwd source target = .ok t'
  | ⟨.copyFile source target, some _⟩, t' =>
    g.Touches target t t' ∧ ∀ dir ∈ dirs, source ≠ backup dir
  | ⟨.pathExists path, there⟩, t' => t' = t ∧ there = t.has g.cwd path
  | ⟨.remove path, _⟩, t' =>
    t'.has g.cwd path = false ∧ ∀ p ≠ goal g.cwd path, t'.at? p = t.at? p
  | ⟨.removeTree dir, _⟩, t' =>
    t'.at? (goal g.cwd dir) = none ∧ SameOutside (goal g.cwd dir) t t'
  | ⟨.makeDirectory _, .ok dir⟩, t' =>
    ∃ p, t.place g.cwd dir = .ok p ∧ t.at? p = none ∧ t' = t.put p .directory ∧ g.Owns dir
  | ⟨.takeLock _, .error (.notOpened _)⟩, t' => t' = t
  | ⟨.takeLock path, _⟩, t' => ∃ p, t.openFile g.cwd path = .ok (p, t')
  | ⟨.startLogged _ log, _⟩, t' => g.Touches log t t'
  | _, t' => t' = t

/-- The private directories behind an exchange. -/
def dirsAfter (dirs : List Text) : Exchange → List Text
  | ⟨.makeDirectory _, .ok dir⟩ => dir :: dirs
  | _ => dirs

/-- The files that a run finds before and behind its exchanges; it asks for no lock. -/
def sites : Protocol Site where
  allows _ q := q.isLockFree = true
  leads s e s' :=
    ∃ t, g.Stirs s.files t ∧ g.Follows s.dirs t e s'.files ∧ s'.dirs = dirsAfter s.dirs e

variable {g} {t t' : FileTree} {dirs : List Text}

theorem follows_of_isInert {q : Request} (hq : q.isInert = true) {a : q.Answer}
    (h : g.Follows dirs t ⟨q, a⟩ t') :
  t' = t ∧ dirsAfter dirs ⟨q, a⟩ = dirs
  := by
  cases q
  case pathExists path => exact ⟨h.1, rfl⟩
  all_goals first | exact ⟨h, rfl⟩ | cases hq

theorem Touches.changes {path : Text} (h : g.Touches path t t') :
  Changes (fun p => p = goal g.cwd path) t t'
  := by
  rcases h with rfl | ⟨content, h⟩
  · apply Changes.refl
  · apply (changes_write h).mono
    intro p
    apply goal_of_place

theorem Touches.node? {path other : Text} (h : g.Touches other t t')
    (hne : goal g.cwd path ≠ goal g.cwd other) :
  t'.node? g.cwd path = t.node? g.cwd path
  := by
  rcases h with rfl | ⟨content, h⟩
  · rfl
  · apply node?_of_write h hne

/-- What is somewhere stays when others try to take the run lock. -/
theorem Stirs.at? (h : g.Stirs t t') {p : Place} {n : Node} (hp : t.at? p = some n) :
  t'.at? p = some n
  := by
  rcases h with rfl | ⟨q, h⟩
  · apply hp
  · obtain ⟨-, -, hdirectory, ⟨-, rfl⟩ | ⟨hnone, rfl⟩⟩ := openFile_eq_ok h
    · apply hp
    · rw [at?_put t (ne_nil_of_at?_ne hdirectory), if_neg]
      · apply hp
      · rintro rfl
        cases hp.symm.trans hnone

/-- What is nowhere on the way of the run lock stays away when others try to take it. -/
theorem Stirs.at?_eq_none (h : g.Stirs t t') {p : Place} (hne : goal g.cwd g.lock ≠ p)
    (hp : t.at? p = none) :
  t'.at? p = none
  := by
  rcases h with rfl | ⟨q, h⟩
  · apply hp
  · obtain ⟨hplace, -, hdirectory, ⟨-, rfl⟩ | ⟨-, rfl⟩⟩ := openFile_eq_ok h
    · apply hp
    · obtain rfl := goal_of_place hplace
      rw [at?_put t (ne_nil_of_at?_ne hdirectory), if_neg hne.symm, hp]

/-! ### What is found at the configuration -/

/-- Whether the configuration is spared by all but the run itself, if something or nothing is found
there now: by results, and by the creation of the lock file. -/
structure Sound (g : Ground) (found : Option Node) : Prop where
  /-- Results spare it. -/
  spared : g.spared
  /-- The creation of the lock file spares it. -/
  path : goal g.cwd g.lock ≠ goal g.cwd g.config ∨ found ≠ none

/-- What is found at the configuration stays when others try to take the run lock. -/
theorem Stirs.node? (h : g.Stirs t t')
    (hpath : goal g.cwd g.lock ≠ goal g.cwd g.config ∨ t.node? g.cwd g.config ≠ none) :
  t'.node? g.cwd g.config = t.node? g.cwd g.config
  := by
  rcases h with rfl | ⟨p, h⟩
  · rfl
  · apply node?_of_openFile h hpath

/-- Several attempts of others create no more than one. -/
theorem Stirs.trans {t'' : FileTree} (h : g.Stirs t t') (h' : g.Stirs t' t'') :
  g.Stirs t t''
  := by
  rcases h with rfl | ⟨p, h⟩
  · apply h'
  · rcases h' with rfl | ⟨p', h'⟩
    · exact .inr ⟨p, h⟩
    · obtain ⟨hplace, -, hdirectory, hnew⟩ := openFile_eq_ok h
      obtain ⟨hplace', -, -, hnew'⟩ := openFile_eq_ok h'
      have hthere : t'.at? p ≠ none := by
        rcases hnew with ⟨hne, rfl⟩ | ⟨-, rfl⟩
        · apply hne
        · rw [at?_put t (ne_nil_of_at?_ne hdirectory), if_pos rfl]
          nofun
      rw [goal_of_place hplace, ← goal_of_place hplace'] at hthere
      rcases hnew' with ⟨-, rfl⟩ | ⟨hnone, -⟩
      · exact .inr ⟨p, h⟩
      · exact absurd hnone hthere

end Ground

/-- Whether a run that has created some private directories finds something, or nothing, at its
configuration. -/
structure Site.Finds (g : Ground) (found : Option Node) (dirs : List Text) (s : Site) : Prop where
  /-- These directories were created. -/
  dirs : s.dirs = dirs
  /-- This is found. -/
  found : g.Sound found → s.files.node? g.cwd g.config = found

variable {g : Ground} {found : Option Node} {dirs : List Text} {s s' : Site} {α : Type}

theorem Site.Finds.stir (h : s.Finds g found dirs) {t : FileTree} (ht : g.Stirs s.files t)
    (hsound : g.Sound found) :
  t.node? g.cwd g.config = found
  := by
  have hfound := h.found hsound
  rw [ht.node? (hfound.symm ▸ hsound.path), hfound]

theorem bears_finds (g : Ground) (found : Option Node) (dirs : List Text) :
  g.sites.Bears (fun q => q.isInert = true) (Site.Finds g found dirs)
  := by
  intro q hq s hs
  apply keeps_single q (Request.isLockFree_of_isInert hq)
  rintro a s' ⟨t, hstirs, hfollows, hdirs⟩
  obtain ⟨hfiles, hsame⟩ := Ground.follows_of_isInert hq hfollows
  constructor
  · rw [hdirs, hsame, hs.dirs]
  · intro hsound
    rw [hfiles, hs.stir hstirs hsound]

/-! ### The copy of the configuration -/

/-- Whether the copy in a private directory is what was kept, if anything was. -/
structure Site.Guards (g : Ground) (dir : Text) (dirs : List Text) (kept : Option Node) (s : Site) :
    Prop where
  /-- These directories were created. -/
  dirs : s.dirs = dirs
  /-- The copy is there. -/
  kept : ∀ n, kept = some n → s.files.at? (goal g.cwd (Ground.backup dir)) = some n

variable {dir : Text} {kept : Option Node}

theorem isEnding_backupName : IsEnding KeptFile.backupName := by
  constructor <;> decide

theorem Ground.Owns.goal_join {name : Text} (h : g.Owns dir) (hname : IsEnding name) :
  goal g.cwd (Path.join dir name) = goal g.cwd dir ++ [name]
  := FileTree.goal_join h.ne_nil h.nul_notMem hname

/-- Paths that the settings name do not lead to the copy. -/
theorem Ground.Owns.goal_ne_backup (h : g.Owns dir) {path : Text} (hpath : g.named path) :
  goal g.cwd path ≠ goal g.cwd (Ground.backup dir)
  := by
  apply (h.avoids path hpath).goal_ne
  rw [Ground.backup, h.goal_join isEnding_backupName]
  apply List.prefix_append

/-- Other names in the private directory do not lead to the copy. -/
theorem Ground.Owns.goal_join_ne_backup (h : g.Owns dir) {name : Text} (hname : IsEnding name)
    (hne : name ≠ KeptFile.backupName) :
  goal g.cwd (Path.join dir name) ≠ goal g.cwd (Ground.backup dir)
  := by
  rw [Ground.backup, h.goal_join isEnding_backupName, h.goal_join hname]
  intro heq
  apply hne (List.cons.inj (List.append_cancel_left heq)).1

/-- What writes elsewhere leaves the copy. -/
theorem bears_guards (g : Ground) (dir : Text) (dirs : List Text) (kept : Option Node) :
  g.sites.Bears
    (Request.KeepsTo (fun path => goal g.cwd path ≠ goal g.cwd (Ground.backup dir)) fun _ _ => True)
    (Site.Guards g dir dirs kept)
  := by
  intro q hq s hs
  apply keeps_single q (Request.isLockFree_of_keepsTo hq)
  rintro a s' ⟨t, hstirs, hfollows, hdirs⟩
  have hkept : ∀ n, kept = some n → t.at? (goal g.cwd (Ground.backup dir)) = some n := by
    intro n hn
    apply hstirs.at? (hs.kept n hn)
  have hchanges : ∀ {path : Text}, goal g.cwd path ≠ goal g.cwd (Ground.backup dir) →
      g.Touches path t s'.files → ∀ n, kept = some n →
      s'.files.at? (goal g.cwd (Ground.backup dir)) = some n := by
    intro path hpath htouches n hn
    apply htouches.changes.node hpath.symm (hkept n hn)
  cases q
  case writeFile path content =>
    have htouches : g.Touches path t s'.files := by
      cases a with
      | true => exact .inr ⟨content, hfollows⟩
      | false => apply hfollows
    exact ⟨hdirs.trans hs.dirs, hchanges hq htouches⟩
  case createDirectories path =>
    refine ⟨hdirs.trans hs.dirs, ?_⟩
    intro n hn
    apply Changes.node hfollows not_false (hkept n hn)
  case connects address port =>
    obtain ⟨hfiles, hsame⟩ := Ground.follows_of_isInert (q := .connects address port) rfl hfollows
    exact ⟨by rw [hdirs, hsame, hs.dirs], hfiles ▸ hkept⟩
  -- the others write nothing
  all_goals
    obtain ⟨hfiles, hsame⟩ := Ground.follows_of_isInert hq hfollows
    exact ⟨by rw [hdirs, hsame, hs.dirs], hfiles ▸ hkept⟩

/-- A service that logs elsewhere leaves the copy. -/
theorem maintains_startLogged {log : Text}
    (hlog : goal g.cwd log ≠ goal g.cwd (Ground.backup dir)) (command : Command) :
  g.sites.Maintains (Site.Guards g dir dirs kept) (Dialogue.single (.startLogged command log))
  := by
  intro s hs
  apply keeps_single (.startLogged command log) rfl
  rintro a s' ⟨t, hstirs, hfollows, hdirs⟩
  refine ⟨hdirs.trans hs.dirs, ?_⟩
  intro n hn
  apply (Ground.Touches.changes hfollows).node hlog.symm (hstirs.at? (hs.kept n hn))

/-! ### Keeping and bringing back -/

/-- A file is kept as it is found, or its absence is. -/
theorem keeps_keep (hdir : g.Owns dir) (hs : s.Finds g found dirs) :
  g.sites.Keeps s
    (fun k s' => k.target = g.config ∧ k.backup = Ground.backup dir
      ∧ ∃ kept, s'.Guards g dir dirs kept ∧ k.existed = kept.isSome
        ∧ (g.Sound found → kept = found))
    (fun _ => Site.Finds g found dirs) (KeptFile.keep g.config dir)
  := by
  have hne := hdir.goal_ne_backup g.config_named
  apply keeps_single_bind (.pathExists g.config) rfl
  rintro there s₁ ⟨t₁, hstirs₁, ⟨hfiles₁, hthere⟩, hdirs₁⟩
  have hfound : g.Sound found → s₁.files.node? g.cwd g.config = found := by
    intro hsound
    rw [hfiles₁, hs.stir hstirs₁ hsound]
  rw [← hfiles₁, has_eq_isSome] at hthere
  cases hkept : s₁.files.node? g.cwd g.config with
  | none =>
    rw [hkept] at hthere hfound
    rw [hthere]
    apply keeps_pure
    use rfl, rfl, none, ⟨hdirs₁.trans hs.dirs, nofun⟩, rfl, hfound
  | some n =>
    rw [hkept] at hthere hfound
    rw [hthere]
    have hsome : s₁.files.node? g.cwd g.config ≠ none := by
      rw [hkept]
      nofun
    apply keeps_single_bind (.copyFile g.config (Ground.backup dir)) rfl
    rintro refusal s₂ ⟨t₂, hstirs₂, hfollows, hdirs₂⟩
    have hnode : t₂.node? g.cwd g.config = some n := by rw [hstirs₂.node? (.inr hsome), hkept]
    have hdirs : s₂.dirs = dirs := hdirs₂.trans (hdirs₁.trans hs.dirs)
    cases refusal with
    | some why =>
      apply keeps_fail
      refine ⟨hdirs, ?_⟩
      intro hsound
      rw [hfollows.1.node? hne, hnode, hfound hsound]
    | none =>
      obtain ⟨n', hsource, htarget⟩ := exists_node?_of_copy hfollows
      obtain rfl := Option.some.inj (hnode.symm.trans hsource)
      apply keeps_pure
      use rfl, rfl, some n
      refine ⟨⟨hdirs, ?_⟩, rfl, hfound⟩
      rintro _ ⟨rfl⟩
      apply at?_of_node? htarget

/-- What was kept is found again, and so is nothing if nothing was kept. -/
theorem keeps_restore {k : KeptFile} (htarget : k.target = g.config)
    (hbackup : k.backup = Ground.backup dir) (hexisted : k.existed = kept.isSome)
    (hmem : dir ∈ dirs) (hkept : g.Sound found → kept = found) (hs : s.Guards g dir dirs kept)
    {bad : Failure → Site → Prop} :
  g.sites.Keeps s (fun _ => Site.Finds g found dirs) bad k.restore
  := by
  unfold KeptFile.restore
  rw [htarget, hbackup, hexisted]
  cases kept with
  | none =>
    apply keeps_single (.remove g.config) rfl
    rintro _ s' ⟨t, -, ⟨hgone, -⟩, hdirs⟩
    refine ⟨hdirs.trans hs.dirs, ?_⟩
    intro hsound
    rw [has_eq_isSome, Option.isSome_eq_false_iff, Option.isNone_iff_eq_none] at hgone
    rw [hgone, hkept hsound]
  | some n =>
    apply keeps_single_bind (.copyFile (Ground.backup dir) g.config) rfl
    rintro refusal s' ⟨t, hstirs, hfollows, hdirs⟩
    cases refusal with
    | some why => exact absurd rfl (hfollows.2 dir (hs.dirs ▸ hmem))
    | none =>
      obtain ⟨n', hsource, hfound⟩ := exists_node?_of_copy hfollows
      obtain rfl := Option.some.inj ((hstirs.at? (hs.kept n rfl)).symm.trans (at?_of_node? hsource))
      apply keeps_pure
      refine ⟨hdirs.trans hs.dirs, ?_⟩
      intro hsound
      rw [hfound, hkept hsound]

/-- A program that writes elsewhere leaves what is found at the configuration. -/
theorem maintains_guarding_config {body : KeptFile → Dialogue α} (hdir : g.Owns dir)
    (hmem : dir ∈ dirs) (hbody : ∀ k kept, k.target = g.config →
      g.sites.Maintains (Site.Guards g dir dirs kept) (body k)) :
  g.sites.Maintains (Site.Finds g found dirs) (KeptFile.guarding g.config dir body)
  := by
  intro s hs
  apply (keeps_keep hdir hs).bind
  rintro k s' ⟨htarget, hbackup, kept, hs', hexisted, hkept⟩
  apply (hbody k kept htarget s' hs').ensuring_same
  intro s₁ hs₁
  apply keeps_restore htarget hbackup hexisted hmem hkept hs₁

/-! ### Private directories -/

/-- Whether nothing is left of the private directories that were created beyond some, and something
or nothing is found at the configuration. -/
structure Site.Rests (g : Ground) (found : Option Node) (dirs : List Text) (s : Site) : Prop where
  /-- The others are gone. -/
  gone : ∃ new, s.dirs = new ++ dirs
    ∧ ∀ dir ∈ new, g.Owns dir ∧ s.files.at? (goal g.cwd dir) = none
  /-- This is found. -/
  found : g.Sound found → s.files.node? g.cwd g.config = found

theorem Site.Finds.rests (h : s.Finds g found dirs) :
  s.Rests g found dirs
  := ⟨⟨[], h.dirs, nofun⟩, h.found⟩

/-- What a run left stays so when others try to take the run lock. -/
theorem Site.Rests.stir (h : s.Rests g found dirs) (hstirs : g.Stirs s.files s'.files)
    (hdirs : s'.dirs = s.dirs) :
  s'.Rests g found dirs
  := by
  obtain ⟨new, hnew, hgone⟩ := h.gone
  constructor
  · use new, hdirs.trans hnew
    intro dir hmem
    obtain ⟨howns, hnone⟩ := hgone dir hmem
    use howns
    apply hstirs.at?_eq_none _ hnone
    apply (howns.avoids g.lock g.lock_named).goal_ne List.prefix_rfl
  · intro hsound
    have hfound := h.found hsound
    rw [hstirs.node? (hfound.symm ▸ hsound.path), hfound]

/-- A new private directory is not seen through the configuration. -/
theorem keeps_makeTempDirectory {name : Text} (hs : s.Finds g found dirs) :
  g.sites.Keeps s (fun dir s' => g.Owns dir ∧ s'.Finds g found (dir :: dirs))
    (fun _ => Site.Finds g found dirs) (makeTempDirectory name)
  := by
  have hinert := bears_finds g found dirs
  apply hinert.keeps_bind .environment rfl hs
  intro entries s₁ hs₁
  apply hinert.keeps_bind (.isDirectory _) rfl hs₁
  intro there s₂ hs₂
  apply keeps_single_bind (.makeDirectory _) rfl
  rintro made s₃ ⟨t, hstirs, hfollows, hdirs⟩
  cases made with
  | error why =>
    refine ⟨hdirs.trans hs₂.dirs, ?_⟩
    intro hsound
    rw [show s₃.files = t from hfollows, hs₂.stir hstirs hsound]
  | ok dir =>
    obtain ⟨p, hplace, hnone, hfiles, howns⟩ := hfollows
    obtain rfl := goal_of_place hplace
    have hp : goal g.cwd dir ≠ [] := by
      intro hp
      rw [hp] at hnone
      cases hnone
    have hsame : SameOutside (goal g.cwd dir) t s₃.files := by
      intro r hr
      rw [hfiles, at?_put t hp, if_neg]
      rintro rfl
      apply hr List.prefix_rfl
    use howns, hdirs.trans (congrArg (dir :: ·) hs₂.dirs)
    intro hsound
    rw [hsame.node? (howns.avoids g.config g.config_named), hs₂.stir hstirs hsound]

/-- A private directory is gone behind the program that it was created for. -/
theorem keeps_withTempDirectory {name : Text} {body : Text → Dialogue α}
    (hs : s.Finds g found dirs)
    (hbody : ∀ dir, g.Owns dir → g.sites.Maintains (Site.Finds g found (dir :: dirs)) (body dir)) :
  g.sites.Keeps s (fun _ => Site.Rests g found dirs) (fun _ => Site.Rests g found dirs)
    (withTempDirectory name body)
  := by
  apply ((keeps_makeTempDirectory hs).mono (fun _ _ h => h) fun _ _ h => h.rests).bind
  rintro dir s' ⟨howns, hs'⟩
  apply (hbody dir howns s' hs').ensuring_same
  intro s₁ hs₁
  apply keeps_single (.removeTree dir) rfl
  rintro _ s₂ ⟨t, hstirs, ⟨hnone, hsame⟩, hdirs⟩
  constructor
  · use [dir], hdirs.trans hs₁.dirs
    rw [List.forall_mem_singleton]
    exact ⟨howns, hnone⟩
  · intro hsound
    rw [hsame.node? (howns.avoids g.config g.config_named), hs₁.stir hstirs hsound]

/-! ### Runs under the lock -/

/-- The names of files in a private directory lead past the copy. -/
theorem isEnding_roundLog (index : Int) :
  IsEnding ("round_".toList ++ Decimal.signed index ++ ".log".toList)
  := by
  have hsigned : ∀ a ∈ Decimal.signed index, a = '-' ∨ Text.isDigit a = true := by
    intro a ha
    unfold Decimal.signed at ha
    split at ha
    · rcases List.mem_cons.1 ha with ha | ha
      · left
        apply ha
      · right
        apply Decimal.isDigit_of_mem_digits ha
    · right
      apply Decimal.isDigit_of_mem_digits ha
  have hmem : ∀ a, a ∉ "round_".toList → a ∉ ".log".toList → a ≠ '-' → Text.isDigit a = false →
      a ∉ "round_".toList ++ Decimal.signed index ++ ".log".toList := by
    intro a hfront hback hminus hdigit ha
    rcases List.mem_append.1 ha with ha | ha
    · rcases List.mem_append.1 ha with ha | ha
      · apply hfront ha
      · rcases hsigned a ha with ha | ha
        · apply hminus ha
        · rw [hdigit] at ha
          cases ha
    · apply hback ha
  constructor
  · apply hmem <;> decide
  · apply hmem <;> decide
  · simp [List.length_append]

/-- A bench that has a private directory leaves the copy there. -/
theorem maintains_bench (c : Config) (scenarios : List Scenario) (pins : CoreChoice)
    (hdir : g.Owns dir) {k : KeptFile} (hk : k.target = g.config) (index target : Int) :
  g.sites.Maintains (Site.Guards g dir dirs kept)
    ((bench c scenarios pins dir k).measureRound index target)
  := by
  have hbears := bears_guards g dir dirs kept
  apply maintains_measureRound hbears
  · apply maintains_measure hbears
    · show goal g.cwd k.target ≠ _
      rw [hk]
      apply hdir.goal_ne_backup g.config_named
    · trivial
    · trivial
    · rintro command log (rfl | rfl)
      · apply maintains_startLogged
        apply hdir.goal_join_ne_backup (by constructor <;> decide) (by decide)
      · apply maintains_startLogged
        apply hdir.goal_join_ne_backup (by constructor <;> decide) (by decide)
    · apply maintains_runLoad hbears
      apply hdir.goal_join_ne_backup (by constructor <;> decide) (by decide)
  · intro index
    apply hdir.goal_join_ne_backup (isEnding_roundLog index)
    intro h
    cases congrArg List.head? h

/-- A program that writes only at paths that the settings name leaves nothing of its bench. -/
theorem keeps_withBench {c : Config} (hconfig : c.subjectConfig = g.config)
    (scenarios : List Scenario) (pins : CoreChoice) {body : RoundProducer Dialogue → Dialogue α}
    (hs : s.Finds g found dirs)
    (hbody : ∀ I, g.sites.Bears (Request.KeepsTo g.named fun _ _ => True) I → ∀ source,
      (∀ index target, g.sites.Maintains I (source index target)) →
      g.sites.Maintains I (body source)) :
  g.sites.Keeps s (fun _ => Site.Rests g found dirs) (fun _ => Site.Rests g found dirs)
    (withBench c scenarios pins body)
  := by
  apply keeps_withTempDirectory hs
  intro dir hdir
  rw [hconfig]
  apply maintains_guarding_config hdir List.mem_cons_self
  intro k kept hk
  apply hbody _ ((bears_guards g dir (dir :: dirs) kept).mono fun _ hq =>
    hq.mono (fun _ => hdir.goal_ne_backup) fun _ _ h => h)
  intro index target
  apply maintains_bench c scenarios pins hdir hk

/-- Whether the settings name the reports of a gate, whenever it starts. -/
def Ground.NamesReports (g : Ground) (c : Config) : Prop :=
  ∀ seconds, g.named
      (ReportFiles.of c.outDir c.reportStem (Moment.ofSeconds seconds).stamp).timestamped
    ∧ g.named (ReportFiles.of c.outDir c.reportStem (Moment.ofSeconds seconds).stamp).latest

/-- A gate leaves nothing but its reports. -/
theorem keeps_gateUnderLock {c : Config} (hconfig : c.subjectConfig = g.config)
    (hreports : g.NamesReports c) (hs : s.Finds g found dirs) :
  g.sites.Keeps s (fun _ => Site.Rests g found dirs) (fun _ => Site.Rests g found dirs)
    (gateUnderLock c)
  := by
  have hquiet := (bears_finds g found dirs).quiet_of_isInert
  have hrests : ∀ (_ : Failure) s', Site.Finds g found dirs s' → Site.Rests g found dirs s' :=
    fun _ _ => Site.Finds.rests
  apply hquiet.keeps_bind (.say _) rfl hs
  intro _ s₁ hs₁
  apply (maintains_requirePrograms hquiet c).keeps_bind hs₁ hrests
  intro _ s₂ hs₂
  apply (maintains_readBaseline hquiet _ _).keeps_bind hs₂ hrests
  intro baseline s₃ hs₃
  apply (maintains_chooseCores hquiet c).keeps_bind hs₃ hrests
  intro pins s₄ hs₄
  apply ((keeps_captureOrigin hquiet hs₄).mono (fun _ _ h => h) hrests).bind
  rintro origin s₅ ⟨hs₅, seconds, hstamp⟩
  apply keeps_withBench hconfig _ _ hs₅
  intro I hbears source hsource
  apply maintains_gateWith hbears hsource
  · rw [hstamp]
    apply (hreports seconds).1
  · rw [hstamp]
    apply (hreports seconds).2

/-- A recut leaves nothing but its sheet. -/
theorem keeps_recutUnderLock {c : Config} (hconfig : c.subjectConfig = g.config) {target : Text}
    (htarget : g.named target) (hs : s.Finds g found dirs) :
  g.sites.Keeps s (fun _ => Site.Rests g found dirs) (fun _ => Site.Rests g found dirs)
    (recutUnderLock c target)
  := by
  have hquiet := (bears_finds g found dirs).quiet_of_isInert
  have hrests : ∀ (_ : Failure) s', Site.Finds g found dirs s' → Site.Rests g found dirs s' :=
    fun _ _ => Site.Finds.rests
  apply hquiet.keeps_bind (.say _) rfl hs
  intro _ s₁ hs₁
  apply (maintains_requirePrograms hquiet c).keeps_bind hs₁ hrests
  intro _ s₂ hs₂
  apply (maintains_chooseCores hquiet c).keeps_bind hs₂ hrests
  intro pins s₃ hs₃
  apply (maintains_captureOrigin hquiet).keeps_bind hs₃ hrests
  intro origin s₄ hs₄
  apply keeps_withBench hconfig _ _ hs₄
  intro I hbears source hsource
  apply maintains_recutWith hbears hsource _ _ _ htarget

end Live

end PerfGate
