import PerfGate.Proofs.Live.Files
import PerfGate.Proofs.Live.Order

/-!
# What a live run leaves behind

A gate or a recut, taken as a dialogue with its host, ends in one way or another: by a value, by an
error of any part, or by an interruption.  Whatever it was answered, all it has started is ended in
order, its private directory is gone, and its configuration is as it was
(`Task.cleans_up`).  The exception is a configuration that is missing and named
as the file of the run lock as well: it is created with the lock.
-/

namespace PerfGate

namespace Live

open FileTree Protocol

/-- A run that holds the run lock all the time. -/
inductive Task where
  /-- A gate. -/
  | gate (c : Config)
  /-- The recording of a baseline to a file. -/
  | recut (c : Config) (target : Text)

namespace Task

/-- The settings. -/
def config : Task → Config
  | gate c => c
  | recut c _ => c

/-- What is asked for, from the lock on. -/
def run : Task → Dialogue Unit
  | gate c => discard (Live.gate c)
  | recut c target => discard (Live.recut c target)

/-- Whether a task writes a file as a result. -/
inductive Produces : Task → Text → Prop
  /-- A gate writes a report under the name of the moment when it started. -/
  | timestamped (c : Config) (seconds : Nat) : Produces (gate c)
      (ReportFiles.of c.outDir c.reportStem (Moment.ofSeconds seconds).stamp).timestamped
  /-- A gate writes the latest report. -/
  | latest (c : Config) (seconds : Nat) : Produces (gate c)
      (ReportFiles.of c.outDir c.reportStem (Moment.ofSeconds seconds).stamp).latest
  /-- A recut writes its sheet. -/
  | sheet (c : Config) (target : Text) : Produces (recut c target) target

/-- Where a task takes place. -/
def ground (t : Task) (cwd : Place) : Ground where
  cwd
  lock := t.config.lockFile
  config := t.config.subjectConfig
  named path := path = t.config.lockFile ∨ path = t.config.subjectConfig ∨ t.Produces path
  spared := True
  lock_named := .inl rfl
  config_named := .inr (.inl rfl)

theorem named_of_produces {t : Task} {cwd : Place} {path : Text} (h : t.Produces path) :
  (t.ground cwd).named path
  := .inr (.inr h)

theorem namesReports {g : Ground} {c : Config}
    (h : ∀ path, (Task.gate c).Produces path → g.named path) :
  g.NamesReports c
  := fun seconds => ⟨h _ (.timestamped c seconds), h _ (.latest c seconds)⟩

end Task

/-! ### Files -/

variable {g : Ground} {found : Option Node} {s s' : Site}

/-- The creation of the lock file is all that an attempt to take the lock makes of the files. -/
theorem Ground.stirs_of_takeLock {dirs : List Text} {t t' : FileTree}
    {answer : Except LockRefusal Nat} (h : g.Follows dirs t ⟨.takeLock g.lock, answer⟩ t') :
  g.Stirs t t'
  := by
  cases answer with
  | ok lock => exact .inr h
  | error why =>
    cases why with
    | notOpened why => exact .inl h
    | held => exact .inr h
    | failed why => exact .inr h

/-- A program that runs under the lock leaves what it leaves without the lock. -/
theorem keeps_withLock {α : Type} {body : Dialogue α} (hs : s.Finds g found [])
    (hbody : ∀ s, s.Finds g found [] →
      g.sites.Keeps s (fun _ => Site.Rests g found []) (fun _ => Site.Rests g found []) body) :
  g.sites.free.Keeps s (fun _ => Site.Rests g found []) (fun _ => Site.Rests g found [])
    (withLock g.lock body)
  := by
  apply keeps_single_bind (.takeLock g.lock) trivial
  rintro taken s' ⟨t, hstirs, hfollows, hdirs⟩
  have hs' : s'.Finds g found [] := by
    refine ⟨hdirs.trans hs.dirs, ?_⟩
    intro hsound
    have hfound := hs.stir hstirs hsound
    rw [(Ground.stirs_of_takeLock hfollows).node? (hfound.symm ▸ hsound.path), hfound]
  cases taken with
  | error why => apply keeps_fail hs'.rests
  | ok lock =>
    apply (hbody s' hs').free.ensuring_same
    intro s₁ hs₁
    apply keeps_single (.releaseLock lock) trivial
    rintro _ s₂ ⟨t, hstirs, hfiles, hdirs⟩
    obtain rfl : s₂.files = t := hfiles
    apply hs₁.stir hstirs hdirs

theorem Task.keeps_run (task : Task) (cwd : Place) (hs : s.Finds (task.ground cwd) found []) :
  (task.ground cwd).sites.free.Keeps s (fun _ => Site.Rests (task.ground cwd) found [])
    (fun _ => Site.Rests (task.ground cwd) found []) task.run
  := by
  cases task with
  | gate c =>
    apply Keeps.map
    apply keeps_withLock hs
    intro s hs
    apply keeps_gateUnderLock rfl (Task.namesReports fun _ => Task.named_of_produces) hs
  | recut c target =>
    apply Keeps.map
    apply keeps_withLock hs
    intro s hs
    apply keeps_recutUnderLock rfl (Task.named_of_produces (.sheet c target)) hs

/-! ### Services, directories and locks -/

theorem Task.maintains_run (task : Task) :
  (order task.config).Maintains (Stage.Within [] [] []) task.run
  := by
  cases task with
  | gate c => apply (maintains_gate c).map
  | recut c target => apply (maintains_recut c target).map

/-- Every exchange leads from a stage to one stage. -/
theorem exists_passes_order (c : Config) (stage : Stage) (es : List Exchange) :
  ∃ stage', (order c).Passes stage es stage'
  := by
  induction es generalizing stage with
  | nil => exact ⟨stage, .nil stage⟩
  | cons e es ih =>
    obtain ⟨stage', h⟩ := ih (stage.next c e)
    exact ⟨stage', .cons rfl h⟩

/-! ### Whole runs -/

/-- Whatever a gate or a recut is answered and however it ends, no service, private directory or
lock is left of it, each of them is given up in order, and its configuration is as it was; unless it
is missing and has the place of the lock file. -/
theorem Task.cleans_up (task : Task) (cwd : Place) {files : FileTree}
    {es : List Exchange} {result : Except Failure Unit} {s : Site} (hruns : task.run.Runs es result)
    (hpasses : (task.ground cwd).sites.Passes { files } es s) :
  (∃ stage, (order task.config).Observes {} es stage
      ∧ stage.alive = [] ∧ stage.dirs = [] ∧ stage.locks = [])
    ∧ (∀ dir ∈ s.dirs, s.files.has cwd dir = false)
    ∧ (goal cwd task.config.lockFile ≠ goal cwd task.config.subjectConfig
        ∨ files.has cwd task.config.subjectConfig = true →
      s.files.node? cwd task.config.subjectConfig = files.node? cwd task.config.subjectConfig)
  := by
  have hfinds : Site.Finds (task.ground cwd) (files.node? cwd task.config.subjectConfig) []
      { files } := ⟨rfl, fun _ => rfl⟩
  obtain ⟨-, hrests⟩ := (task.keeps_run cwd hfinds).observes hruns hpasses.free
  have hleft : s.Rests (task.ground cwd) (files.node? cwd task.config.subjectConfig) [] := by
    cases result <;> exact hrests
  obtain ⟨stage, hpassed⟩ := exists_passes_order task.config {} es
  obtain ⟨hobserves, hwithin⟩ := (task.maintains_run {} ⟨nofun, rfl, rfl⟩).observes hruns hpassed
  have hstage : stage.Within [] [] [] := by
    cases result <;> exact hwithin
  refine ⟨⟨stage, hobserves, hstage.alive_eq_nil, hstage.dirs, hstage.locks⟩, ?_, ?_⟩
  · intro dir hdir
    obtain ⟨new, hnew, hgone⟩ := hleft.gone
    rw [hnew, List.append_nil] at hdir
    apply has_eq_false_of_at? (hgone dir hdir).2
  · rintro (hne | hthere)
    · apply hleft.found ⟨trivial, .inl hne⟩
    · rw [has_eq_isSome, Option.isSome_iff_ne_none] at hthere
      apply hleft.found ⟨trivial, .inr hthere⟩

/-! ### A run that fails with both services up -/

/-- Inert requests that look at no path leave the files. -/
theorem passes_cons_of_isInert {es : List Exchange} {q : Request} {a : q.Answer}
    (h : g.sites.Passes s es s') (hq : (q.isInert && !(q matches .pathExists _)) = true) :
  g.sites.Passes s (⟨q, a⟩ :: es) s'
  := by
  apply Passes.cons _ h
  refine ⟨s.files, .inl rfl, ?_⟩
  cases q <;> first | exact ⟨rfl, rfl⟩ | cases hq

/-- A working directory with a configuration, and a directory for temporary files. -/
def smallTree : FileTree where
  nodes := [(["tmp".toList], .directory), (["w".toList], .directory),
    (["w".toList, "config.yaml".toList], .file "mode: a".toList 420)]

/-- The answers of a host that has no revisions and no pipes; the backend simulator is process 7 and
the service under test process 8. -/
def pipelessReply : (q : Request) → q.Answer
  | .mayExecute path => path.getLast? != some 't'
  | .makeDirectory _ => .ok "/tmp/q".toList
  | .startLogged _ log => .ok (if log = "/tmp/q/upstream.log".toList then 7 else 8)
  | .startPiped _ _ => .error (.pipeFailed .tooManyFiles)
  | q => q.calm

/-- A recut in a working directory. -/
def smallRecut : Task := .recut { lockFile := "lock".toList } "sheet.md".toList

/-- The files when the lock was taken. -/
def smallTree.locked : FileTree := smallTree.put ["w".toList, "lock".toList] (.file [] 420)

/-- The files when there was a private directory. -/
def smallTree.private : FileTree :=
  smallTree.locked.put ["tmp".toList, "q".toList] .directory

/-- The files when the configuration was kept there. -/
def smallTree.kept : FileTree :=
  smallTree.private.put ["tmp".toList, "q".toList, "subject_config.backup".toList]
    (.file "mode: a".toList 420)

/-- The files with the log of the backend simulator. -/
def smallTree.logged : FileTree :=
  smallTree.kept.put ["tmp".toList, "q".toList, "upstream.log".toList] (.file [] 420)

/-- The files with the logs of both services. -/
def smallTree.served : FileTree :=
  smallTree.logged.put ["tmp".toList, "q".toList, "subject.log".toList] (.file [] 420)

/-- Files with another configuration. -/
def withConfig (t : FileTree) (words : Text) : FileTree :=
  t.put ["w".toList, "config.yaml".toList] (.file words 420)

theorem owns_smallRecut :
  (smallRecut.ground ["w".toList]).Owns "/tmp/q".toList
  := by
  refine ⟨by decide, by decide, ?_⟩
  rintro path (hlock | hconfig | hsheet)
  · rw [hlock]
    decide
  · rw [hconfig]
    decide
  · cases hsheet
    decide

/-- The log of the service under test is a new file, whatever the configuration says. -/
theorem write_withConfig (words : Text) :
  (withConfig smallTree.logged words).write ["w".toList] "/tmp/q/subject.log".toList [] =
    .ok (withConfig smallTree.served words)
  := rfl

theorem passes_smallRecut :
  (smallRecut.ground ["w".toList]).sites.Passes { files := smallTree }
    (smallRecut.run.play pipelessReply).1
    { files := smallTree.locked, dirs := ["/tmp/q".toList] }
  := by
  apply @Passes.cons _ _ _ { files := smallTree.locked }
  · exact ⟨smallTree, .inl rfl, ⟨_, rfl⟩, rfl⟩
  -- the preparation
  iterate 23
    apply fun h => passes_cons_of_isInert h rfl
  apply @Passes.cons _ _ _ ⟨smallTree.private, ["/tmp/q".toList]⟩
  · exact ⟨smallTree.locked, .inl rfl, ⟨_, rfl, rfl, rfl, owns_smallRecut⟩, rfl⟩
  apply @Passes.cons _ _ _ ⟨smallTree.private, ["/tmp/q".toList]⟩
  · exact ⟨_, .inl rfl, ⟨rfl, rfl⟩, rfl⟩
  apply @Passes.cons _ _ _ ⟨smallTree.kept, ["/tmp/q".toList]⟩
  · exact ⟨_, .inl rfl, rfl, rfl⟩
  iterate 4
    apply fun h => passes_cons_of_isInert h rfl
  -- the backend simulator
  apply @Passes.cons _ _ _ ⟨smallTree.logged, ["/tmp/q".toList]⟩
  · exact ⟨_, .inl rfl, .inr ⟨[], rfl⟩, rfl⟩
  iterate 2
    apply fun h => passes_cons_of_isInert h rfl
  -- the service under test
  apply @Passes.cons _ _ _ ⟨withConfig smallTree.logged _, ["/tmp/q".toList]⟩
  · exact ⟨_, .inl rfl, rfl, rfl⟩
  apply fun h => passes_cons_of_isInert h rfl
  apply @Passes.cons _ _ _ ⟨withConfig smallTree.served _, ["/tmp/q".toList]⟩
  · exact ⟨_, .inl rfl, .inr ⟨[], write_withConfig _⟩, rfl⟩
  -- the request that cannot be sent, and the end of both services
  iterate 12
    apply fun h => passes_cons_of_isInert h rfl
  apply @Passes.cons _ _ _ ⟨smallTree.served, ["/tmp/q".toList]⟩
  · exact ⟨_, .inl rfl, rfl, rfl⟩
  apply @Passes.cons _ _ _ ⟨smallTree.locked, ["/tmp/q".toList]⟩
  · refine ⟨_, .inl rfl, ⟨by decide, ?_⟩, rfl⟩
    intro r hr
    have hprune : smallTree.served.prune ["tmp".toList, "q".toList] = smallTree.locked := rfl
    rw [← hprune]
    apply (at?_prune _ (by decide) r).trans (if_neg hr)
  apply @Passes.cons _ _ _ ⟨smallTree.locked, ["/tmp/q".toList]⟩
  · exact ⟨_, .inl rfl, rfl, rfl⟩
  apply Passes.nil

/-- A recut that fails in its first round, when it has started both services. -/
theorem Task.cleans_up_smallRecut :
  ∃ es result s, smallRecut.run.Runs es result
    ∧ (smallRecut.ground ["w".toList]).sites.Passes { files := smallTree } es s
    ∧ es.countP (·.request matches .startLogged _ _) = 2
    ∧ (∃ stage, (order smallRecut.config).Observes {} es stage ∧ stage.alive = [])
    ∧ s.dirs = ["/tmp/q".toList] ∧ s.files.has ["w".toList] "/tmp/q".toList = false
    ∧ s.files.node? ["w".toList] "config.yaml".toList =
      smallTree.node? ["w".toList] "config.yaml".toList
  := by
  have hruns := Dialogue.runs_play pipelessReply smallRecut.run
  obtain ⟨⟨stage, hobserves, halive, -⟩, hdirs, hconfig⟩ :=
    smallRecut.cleans_up ["w".toList] hruns passes_smallRecut
  refine ⟨_, _, _, hruns, passes_smallRecut, rfl, ⟨stage, hobserves, halive⟩, rfl,
    hdirs _ List.mem_cons_self, ?_⟩
  apply hconfig
  right
  rfl

/-! ### A configuration that is the file of the lock -/

/-- The answers of a host without any program. -/
def bareReply : (q : Request) → q.Answer
  | .mayExecute _ => false
  | q => q.calm

/-- A gate that locks its configuration. -/
def selfLocked : Task := .gate { lockFile := "config.yaml".toList }

/-- A missing configuration is created with the lock that has its place, and it stays. -/
theorem Task.config_created_with_lock :
  ¬ ∀ (task : Task) (cwd : Place) (files : FileTree) (es : List Exchange)
      (result : Except Failure Unit) (s : Site), task.run.Runs es result →
      (task.ground cwd).sites.Passes { files } es s →
      s.files.node? cwd task.config.subjectConfig = files.node? cwd task.config.subjectConfig
  := by
  intro hall
  have hpasses : (selfLocked.ground []).sites.Passes { files := {} }
      (selfLocked.run.play bareReply).1
      { files := { nodes := [(["config.yaml".toList], .file [] 420)] } } := by
    apply @Passes.cons _ _ _ ⟨{ nodes := [(["config.yaml".toList], .file [] 420)] }, []⟩
    · exact ⟨_, .inl rfl, ⟨_, rfl⟩, rfl⟩
    iterate 3
      apply fun h => passes_cons_of_isInert h rfl
    apply @Passes.cons _ _ _ ⟨{ nodes := [(["config.yaml".toList], .file [] 420)] }, []⟩
    · exact ⟨_, .inl rfl, rfl, rfl⟩
    apply Passes.nil
  have hsame := hall selfLocked [] {} _ _ _ (Dialogue.runs_play bareReply _) hpasses
  have hnow : (FileTree.mk [(["config.yaml".toList], .file [] 420)]).node? []
      selfLocked.config.subjectConfig = some (.file [] 420) := rfl
  have hbefore : (FileTree.mk []).node? [] selfLocked.config.subjectConfig = none := rfl
  cases hnow.symm.trans (hsame.trans hbefore)

end Live

end PerfGate
