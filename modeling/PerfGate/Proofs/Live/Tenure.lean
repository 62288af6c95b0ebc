import PerfGate.Proofs.Live.Cleanup

/-!
# The tenure of the run lock

An invocation is before its tenure of the run lock, in it, behind it, or was refused it.  Before
and behind, it asks for nothing that writes a file or starts a service; refused, it asks for nothing
more and ends with a setup error; and it does not give the lock back before its configuration is as
it was when the lock was taken.  This holds of a gate, of a recut, and of a dual gate with all its
legs.
-/

namespace PerfGate

namespace Live

open FileTree Protocol

/-! ### Errands -/

/-- What an invocation is for. -/
inductive Errand where
  /-- A gate or a recut. -/
  | task (t : Task)
  /-- A dual gate. -/
  | dual (d : DualConfig)

namespace Errand

/-- The settings that name the lock and the configuration. -/
def config : Errand → Config
  | task t => t.config
  | dual d => d.base

/-- What is asked for. -/
def run : Errand → Dialogue Unit
  | task t => t.run
  | dual d => discard (dualGate d)

/-- Whether a dual gate writes a file between and behind its legs. -/
inductive Publishes : Errand → Text → Prop
  /-- The report of the pinned leg. -/
  | pinned (d : DualConfig) : Publishes (dual d)
      (DualGate.legReport d.base.outDir d.base.reportStem DualGate.pinnedName)
  /-- The report of the unpinned leg. -/
  | unpinned (d : DualConfig) : Publishes (dual d)
      (DualGate.legReport d.base.outDir d.base.reportStem DualGate.unpinnedName)
  /-- The summary. -/
  | summary (d : DualConfig) : Publishes (dual d) (DualGate.summaryFile d)

/-- Whether an errand writes a file as a result. -/
inductive Produces : Errand → Text → Prop
  /-- A task writes its results. -/
  | task {t : Task} {path : Text} (h : t.Produces path) : Produces (task t) path
  /-- A leg writes the reports of a gate. -/
  | leg {d : DualConfig} {path : Text} (h : (Task.gate d.base).Produces path) :
      Produces (dual d) path
  /-- A dual gate writes more. -/
  | published {e : Errand} {path : Text} (h : e.Publishes path) : Produces e path

end Errand

/-! ### Tenures -/

/-- How an invocation and the run lock are to each other. -/
inductive Tenure where
  /-- It has not asked for the lock. -/
  | before
  /-- It was refused the lock. -/
  | refused
  /-- It holds the lock, and found something or nothing at its configuration when it took it. -/
  | inside (lock : Nat) (found : Option Node) (site : Site)
  /-- It has given the lock back. -/
  | behind

/-- Whether something or nothing is found at the configuration. -/
def Site.Shows (g : Ground) (found : Option Node) (s : Site) : Prop :=
  g.Sound found → s.files.node? g.cwd g.config = found

/-- What an invocation may ask for in its tenure. -/
def Tenure.Allows (g : Ground) : Tenure → Request → Prop
  | before, q => q.isInert = true ∨ q = .takeLock g.lock
  | refused, _ => False
  | inside lock found site, q =>
    q.isLockFree = true ∨ q = .releaseLock lock ∧ site.Shows g found
  | behind, q => q.isInert = true

/-- Where an exchange leads in a tenure. -/
inductive Tenure.Turn (g : Ground) : Tenure → Exchange → Tenure → Prop
  /-- It is not about the lock, before. -/
  | wait {e : Exchange} (h : e.request.isInert = true) : Turn g before e before
  /-- The lock is taken. -/
  | take (path : Text) (lock : Nat) (t : FileTree) :
      Turn g before ⟨.takeLock path, .ok lock⟩
        (inside lock (t.node? g.cwd g.config) { files := t })
  /-- The lock is refused. -/
  | refuse (path : Text) (why : LockRefusal) :
      Turn g before ⟨.takeLock path, .error why⟩ refused
  /-- The lock is held. -/
  | work {lock : Nat} {found : Option Node} {site site' : Site} {e : Exchange}
      (h : e.request.isLockFree = true) (hsites : g.sites.leads site e site') :
      Turn g (inside lock found site) e (inside lock found site')
  /-- The lock is given back. -/
  | release {lock lock' : Nat} {found : Option Node} {site : Site} {answer : Unit} :
      Turn g (inside lock found site) ⟨.releaseLock lock', answer⟩ behind
  /-- It is not about the lock, behind. -/
  | leave {e : Exchange} (h : e.request.isInert = true) : Turn g behind e behind

/-- The tenure that an invocation keeps. -/
def Ground.tenure (g : Ground) : Protocol Tenure where
  allows := Tenure.Allows g
  leads := Tenure.Turn g

/-- How an invocation ends. -/
def Tenure.Ends : Except Failure Unit → Tenure → Prop :=
  ending (fun _ s => s = behind) fun e s =>
    s = before ∨ s = behind ∨ s = refused ∧ ∃ cause, e = .gate cause ∧ cause.kind = .setup

variable {g : Ground} {found : Option Node} {lock : Nat} {s : Site} {α : Type}
  {good : α → Site → Prop} {bad : Failure → Site → Prop}

/-- What a program that asks for no lock leaves, it leaves in a tenure as well. -/
theorem keeps_inside {x : Dialogue α} (h : g.sites.Keeps s good bad x) :
  g.tenure.Keeps (.inside lock found s) (fun a ten => ∃ s', ten = .inside lock found s' ∧ good a s')
    (fun e ten => ∃ s', ten = .inside lock found s' ∧ bad e s') x
  := by
  induction x generalizing s with
  | ended result => cases result <;> exact ⟨s, rfl, h⟩
  | ask q next ih =>
    obtain ⟨hfree, hnext⟩ := h
    use .inl hfree
    intro a ten hturn
    cases hturn with
    | work _ hsites => apply ih a (hnext a _ hsites)
    | release => cases hfree

theorem bears_before (g : Ground) :
  g.tenure.Bears (fun q => q.isInert = true) (· = .before)
  := by
  rintro q hq _ rfl
  have hallows : Tenure.Allows g .before q := .inl hq
  apply keeps_single q hallows
  rintro a ten hturn
  cases hturn with
  | wait => rfl
  | take => cases hq
  | refuse => cases hq

/-- A program under the lock that leaves what was found at the configuration makes a tenure. -/
theorem keeps_tenure {body : Dialogue α}
    (hbody : ∀ found s, s.Finds g found [] →
      g.sites.Keeps s (fun _ => Site.Shows g found) (fun _ => Site.Shows g found) body) :
  g.tenure.Keeps .before (fun _ ten => ten = .behind)
    (fun e ten => ten = .behind ∨ ten = .refused ∧ ∃ cause, e = .gate cause ∧ cause.kind = .setup)
    (withLock g.lock body)
  := by
  have hrelease : ∀ {lock found s}, s.Shows g found → ∀ {bad}, g.tenure.Keeps
      (.inside lock found s) (fun _ ten => ten = .behind) bad (releaseLock lock) := by
    intro lock found s hs bad
    have hallows : Tenure.Allows g (.inside lock found s) (.releaseLock lock) := .inr ⟨rfl, hs⟩
    apply keeps_single (.releaseLock lock) hallows
    rintro a ten hturn
    cases hturn with
    | work hfree => cases hfree
    | release => rfl
  have hallows : Tenure.Allows g .before (.takeLock g.lock) := .inr rfl
  apply keeps_single_bind (.takeLock g.lock) hallows
  rintro answer ten hturn
  cases hturn with
  | wait hinert => cases hinert
  | refuse _ why =>
    apply keeps_fail
    right
    exact ⟨rfl, _, rfl, rfl⟩
  | take _ lock t =>
    apply (keeps_inside (hbody _ { files := t } ⟨rfl, fun _ => rfl⟩)).ensuring
    · rintro a _ ⟨s', rfl, hs'⟩
      apply hrelease hs'
    · rintro e _ ⟨s', rfl, hs'⟩
      apply (hrelease hs').mono
      · intro _ _ hten
        left
        apply hten
      · intro _ _ hten
        apply hten

/-! ### Transcripts of tenures -/

/-- Whether a lock was taken. -/
def HasTaken (es : List Exchange) : Prop :=
  ∃ path lock, ⟨.takeLock path, .ok lock⟩ ∈ es

/-- Whether a lock was given back. -/
def HasReleased (es : List Exchange) : Prop :=
  ∃ e ∈ es, ∃ lock, e.request = .releaseLock lock

/-- Whether a lock was refused. -/
def WasRefused (es : List Exchange) : Prop :=
  ∃ path why, ⟨.takeLock path, .error why⟩ ∈ es

/-- Whether all but looking and waiting was done between taking and giving back a lock. -/
def Sheltered (es : List Exchange) : Prop :=
  ∀ pre e post, es = pre ++ e :: post → e.request.isInert = true
    ∨ (∃ path, e.request = .takeLock path) ∨ HasTaken pre ∧ ¬ HasReleased pre

theorem sheltered_of_forall {es : List Exchange} (h : ∀ e ∈ es, e.request.isInert = true) :
  Sheltered es
  := by
  rintro pre e post rfl
  left
  apply h e (List.mem_append_right _ List.mem_cons_self)

theorem Sheltered.concat {es : List Exchange} (h : Sheltered es) {e : Exchange}
    (he : e.request.isInert = true ∨ (∃ path, e.request = .takeLock path)
      ∨ HasTaken es ∧ ¬ HasReleased es) :
  Sheltered (es ++ [e])
  := by
  intro pre e' post heq
  cases post using List.reverseRecOn with
  | nil =>
    obtain ⟨rfl, hlast⟩ := List.append_inj' heq rfl
    obtain rfl := List.singleton_inj.1 hlast
    apply he
  | append_singleton post last =>
    rw [← List.cons_append, ← List.append_assoc] at heq
    obtain ⟨rfl, -⟩ := List.append_inj' heq rfl
    apply h pre e' post rfl

/-- What was exchanged so far in a tenure. -/
def Tenure.Told (g : Ground) : Tenure → List Exchange → Prop
  | before, es => ∀ e ∈ es, e.request.isInert = true
  | refused, es => ∃ pre why, es = pre ++ [⟨.takeLock g.lock, .error why⟩]
      ∧ ∀ e ∈ pre, e.request.isInert = true
  | inside _ _ _, es => HasTaken es ∧ ¬ HasReleased es ∧ ¬ WasRefused es ∧ Sheltered es
  | behind, es => HasTaken es ∧ HasReleased es ∧ ¬ WasRefused es ∧ Sheltered es

theorem hasTaken_concat {es : List Exchange} (h : HasTaken es) (e : Exchange) :
  HasTaken (es ++ [e])
  := by
  obtain ⟨path, lock, hmem⟩ := h
  use path, lock, List.mem_append_left _ hmem

theorem not_hasReleased_concat {es : List Exchange} (h : ¬ HasReleased es) {e : Exchange}
    (he : ∀ lock, e.request ≠ .releaseLock lock) :
  ¬ HasReleased (es ++ [e])
  := by
  rintro ⟨e', hmem, lock, hrequest⟩
  rcases List.mem_append.1 hmem with hmem | hmem
  · apply h ⟨e', hmem, lock, hrequest⟩
  · rw [List.mem_singleton.1 hmem] at hrequest
    apply he lock hrequest

theorem not_wasRefused_concat {es : List Exchange} (h : ¬ WasRefused es) {e : Exchange}
    (he : ∀ path why, e ≠ ⟨.takeLock path, .error why⟩) :
  ¬ WasRefused (es ++ [e])
  := by
  rintro ⟨path, why, hmem⟩
  rcases List.mem_append.1 hmem with hmem | hmem
  · apply h ⟨path, why, hmem⟩
  · apply he path why (List.mem_singleton.1 hmem).symm

/-- One more exchange of a tenure. -/
theorem Tenure.Told.concat {ten ten' : Tenure} {es : List Exchange} {e : Exchange}
    (h : ten.Told g es) (hallows : ten.Allows g e.request) (hturn : Tenure.Turn g ten e ten') :
  ten'.Told g (es ++ [e])
  := by
  cases hturn with
  | wait hinert =>
    intro e' he'
    rcases List.mem_append.1 he' with he' | he'
    · apply h e' he'
    · rw [List.mem_singleton.1 he']
      apply hinert
  | take path lock t =>
    have hreleased : ¬ HasReleased es := by
      rintro ⟨e, hmem, lock, hrequest⟩
      have := h e hmem
      rw [hrequest] at this
      cases this
    have hrefused : ¬ WasRefused es := by
      rintro ⟨path, why, hmem⟩
      cases h _ hmem
    refine ⟨⟨path, lock, ?_⟩, ?_, ?_, ?_⟩
    · simp
    · apply not_hasReleased_concat hreleased
      intro _ hrequest
      cases hrequest
    · apply not_wasRefused_concat hrefused
      intro _ _ hrefusal
      cases hrefusal
    · apply (sheltered_of_forall h).concat
      right
      left
      use path
  | refuse path why =>
    rcases hallows with hinert | hpath
    · cases hinert
    · obtain ⟨rfl⟩ := hpath
      exact ⟨es, why, rfl, h⟩
  | work hfree hsites =>
    obtain ⟨htaken, hreleased, hrefused, hsheltered⟩ := h
    refine ⟨hasTaken_concat htaken e, ?_, ?_, ?_⟩
    · apply not_hasReleased_concat hreleased
      intro lock hrequest
      rw [hrequest] at hfree
      cases hfree
    · apply not_wasRefused_concat hrefused
      rintro path why rfl
      cases hfree
    · apply hsheltered.concat
      right
      right
      use htaken, hreleased
  | release =>
    obtain ⟨htaken, hreleased, hrefused, hsheltered⟩ := h
    refine ⟨hasTaken_concat htaken _, ?_, ?_, ?_⟩
    · exact ⟨_, List.mem_append_right _ (List.mem_singleton_self _), _, rfl⟩
    · apply not_wasRefused_concat hrefused
      intro _ _ hrefusal
      cases hrefusal
    · apply hsheltered.concat
      right
      right
      use htaken, hreleased
  | leave hinert =>
    obtain ⟨htaken, ⟨e', hmem, lock, hrequest⟩, hrefused, hsheltered⟩ := h
    refine ⟨hasTaken_concat htaken e, ?_, ?_, ?_⟩
    · use e', List.mem_append_left _ hmem, lock
    · apply not_wasRefused_concat hrefused
      rintro path why rfl
      cases hinert
    · apply hsheltered.concat
      left
      apply hinert

/-! ### The legs of a dual gate -/

theorem bears_shows (g : Ground) (found : Option Node) :
  g.sites.Bears (fun q => q.isInert = true) (Site.Shows g found)
  := by
  intro q hq s hs
  have hfinds : s.Finds g found s.dirs := ⟨rfl, hs⟩
  apply (bears_finds g found s.dirs q hq s hfinds).mono
  · intro _ _ h
    apply h.found
  · intro _ _ h
    apply h.found

/-- A file that is written elsewhere is not seen at the configuration. -/
theorem maintains_shows_writeFile {path : Text}
    (hne : g.spared → goal g.cwd g.config ≠ goal g.cwd path)
    (content : Text) :
  g.sites.Maintains (Site.Shows g found) (Dialogue.single (.writeFile path content))
  := by
  intro s hs
  apply keeps_single (.writeFile path content) rfl
  rintro written s' ⟨t, hstirs, hfollows, -⟩ hsound
  have htouches : g.Touches path t s'.files := by
    cases written with
    | true => exact .inr ⟨content, hfollows⟩
    | false => apply hfollows
  have hfinds : s.Finds g found s.dirs := ⟨rfl, hs⟩
  rw [htouches.node? (hne hsound.spared), hfinds.stir hstirs hsound]

/-- A copy to elsewhere is not seen at the configuration. -/
theorem maintains_shows_copyFile {target : Text}
    (hne : g.spared → goal g.cwd g.config ≠ goal g.cwd target)
    (source : Text) :
  g.sites.Maintains (Site.Shows g found) (Dialogue.single (.copyFile source target))
  := by
  intro s hs
  apply keeps_single (.copyFile source target) rfl
  rintro refusal s' ⟨t, hstirs, hfollows, -⟩ hsound
  have hfinds : s.Finds g found s.dirs := ⟨rfl, hs⟩
  have hnode : s'.files.node? g.cwd g.config = t.node? g.cwd g.config := by
    cases refusal with
    | none => apply node?_of_copy hfollows (hne hsound.spared)
    | some why => apply hfollows.1.node? (hne hsound.spared)
  rw [hnode, hfinds.stir hstirs hsound]

variable {c : Config} (hconfig : c.subjectConfig = g.config) (hreports : g.NamesReports c)

include hconfig hreports

theorem maintains_shows_gateUnderLock :
  g.sites.Maintains (Site.Shows g found) (gateUnderLock c)
  := by
  intro s hs
  have hfinds : s.Finds g found s.dirs := ⟨rfl, hs⟩
  apply (keeps_gateUnderLock hconfig hreports hfinds).mono
  · intro _ _ h
    apply h.found
  · intro _ _ h
    apply h.found

theorem maintains_shows_runLeg {leg : Text}
    (hleg : g.spared →
      goal g.cwd g.config ≠ goal g.cwd (DualGate.legReport c.outDir c.reportStem leg)) :
  g.sites.Maintains (Site.Shows g found) (DualGate.runLeg gateUnderLock c leg)
  := maintains_runLeg (maintains_shows_gateUnderLock hconfig hreports)
      (maintains_shows_copyFile hleg)

omit hconfig hreports

/-! ### Whole errands -/

/-- What a task does under the lock makes a tenure. -/
theorem Task.keeps_tenure (t : Task) (hlock : t.config.lockFile = g.lock)
    (hconfig : t.config.subjectConfig = g.config)
    (hnamed : ∀ path, t.Produces path → g.named path) :
  g.tenure.Keeps .before (fun _ => Tenure.Ends (.ok ())) (fun e => Tenure.Ends (.error e)) t.run
  := by
  cases t with
  | gate c =>
    apply Keeps.map
    unfold Live.gate
    rw [show c.lockFile = g.lock from hlock]
    apply (Live.keeps_tenure _).mono (fun _ _ h => h) (fun _ _ h => .inr h)
    intro found s hs
    apply (keeps_gateUnderLock hconfig (Task.namesReports hnamed) hs).mono
      (fun _ _ h => h.found) (fun _ _ h => h.found)
  | recut c target =>
    apply Keeps.map
    rw [recut_eq, show c.lockFile = g.lock from hlock]
    apply (Live.keeps_tenure _).mono (fun _ _ h => h) (fun _ _ h => .inr h)
    intro found s hs
    apply (keeps_recutUnderLock hconfig (hnamed _ (.sheet c target)) hs).mono
      (fun _ _ h => h.found) (fun _ _ h => h.found)

/-- A dual gate has one tenure for all its legs. -/
theorem keeps_tenure_dualGate (d : DualConfig) (hlock : d.base.lockFile = g.lock)
    (hconfig : d.base.subjectConfig = g.config)
    (hnamed : ∀ path, (Task.gate d.base).Produces path → g.named path)
    (hpublished : g.spared → ∀ path, (Errand.dual d).Publishes path →
      goal g.cwd g.config ≠ goal g.cwd path) :
  g.tenure.Keeps .before (fun _ => Tenure.Ends (.ok ())) (fun e => Tenure.Ends (.error e))
    (dualGate d)
  := by
  have hreports := Task.namesReports hnamed
  apply (maintains_captureOrigin (bears_before g).quiet_of_isInert).keeps_bind rfl
    (fun _ _ h => .inl h)
  rintro origin _ rfl
  rw [DualGate.run_eq_withLock, hlock]
  apply (keeps_tenure _).mono (fun _ _ h => h) (fun _ _ h => .inr h)
  intro found s hs
  have hquiet := (bears_shows g found).quiet_of_isInert
  have hpinned : g.sites.Maintains (Site.Shows g found)
      (DualGate.runLeg gateUnderLock d.pinnedLeg DualGate.pinnedName) :=
    maintains_shows_runLeg (c := d.pinnedLeg) hconfig hreports
      fun h => hpublished h _ (.pinned d)
  have hunpinned : g.sites.Maintains (Site.Shows g found)
      (DualGate.runLeg gateUnderLock d.unpinnedLeg DualGate.unpinnedName) :=
    maintains_shows_runLeg (c := d.unpinnedLeg) hconfig hreports
      fun h => hpublished h _ (.unpinned d)
  have hsummary : ∀ text, g.sites.Maintains (Site.Shows g found)
      (Dialogue.single (.writeFile (DualGate.summaryFile d) text)) :=
    maintains_shows_writeFile fun h => hpublished h _ (.summary d)
  apply maintains_runUnderLock hquiet hunpinned hpinned hsummary origin s hs.found

/-- Every errand makes a tenure. -/
theorem Errand.keeps_run (e : Errand) (hlock : e.config.lockFile = g.lock)
    (hconfig : e.config.subjectConfig = g.config) (hnamed : ∀ path, e.Produces path → g.named path)
    (hpublished : g.spared → ∀ path, e.Publishes path →
      goal g.cwd g.config ≠ goal g.cwd path) :
  g.tenure.Keeps .before (fun _ => Tenure.Ends (.ok ())) (fun e => Tenure.Ends (.error e)) e.run
  := by
  cases e with
  | task t =>
    apply t.keeps_tenure hlock hconfig
    intro path h
    apply hnamed path (.task h)
  | dual d =>
    apply Keeps.map
    apply keeps_tenure_dualGate d hlock hconfig _ hpublished
    intro path h
    apply hnamed path (.leg h)

end Live

end PerfGate
