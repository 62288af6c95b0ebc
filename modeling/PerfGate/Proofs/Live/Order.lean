import PerfGate.Proofs.Live.Scopes

/-!
# The order of a live run

What a run has started, created and taken, and not yet ended, removed and given back.  In every run
a backend simulator is started only when no service is left, the service under test only behind a
backend simulator whose port took a connection, and files are put back only when no service is left:
this is the protocol `Live.order`.  However a run ends, nothing is left of it.
-/

namespace PerfGate

namespace Live

/-! ### Stages -/

/-- How far the start of the services of a scenario has come. -/
inductive Phase where
  /-- No backend simulator waits for its subject. -/
  | idle
  /-- A backend simulator was started. -/
  | launched
  /-- Its port took a connection. -/
  | answering
deriving DecidableEq

/-- What is left of the exchanges of a run so far. -/
structure Stage where
  /-- The services that were started and not killed since. -/
  alive : List Pid := []
  /-- How far the start of the services of a scenario has come. -/
  phase : Phase := .idle
  /-- The private directories that were created and not removed since. -/
  dirs : List Text := []
  /-- The locks that were taken and not given back since. -/
  locks : List Nat := []

namespace Stage

/-- Whether a log is that of the backend simulator. -/
def isBackendLog (s : Stage) (log : Text) : Bool :=
  s.dirs.any fun dir => log == Path.join dir "upstream.log".toList

/-- Whether a log is that of the service under test. -/
def isSubjectLog (s : Stage) (log : Text) : Bool :=
  s.dirs.any fun dir => log == Path.join dir "subject.log".toList

/-- The stage behind the start of a service. -/
def started (s : Stage) (log : Text) (pid : Pid) : Stage where
  alive := pid :: s.alive
  phase := if s.isBackendLog log then .launched else .idle
  dirs := s.dirs
  locks := s.locks

/-- The stage behind an exchange. -/
def next (c : Config) (s : Stage) : Exchange → Stage
  | ⟨.startLogged _ log, .ok pid⟩ => s.started log pid
  | ⟨.startLogged _ _, .error _⟩ => { s with phase := .idle }
  | ⟨.connects address port, answered⟩ =>
    if answered && s.phase == .launched && address == loopback
      && port == portNumber c.backendPort then { s with phase := .answering }
    else s
  | ⟨.signalGroup group signal, _⟩ =>
    if signal = Signal.kill then { s with alive := s.alive.filter (· != group) } else s
  | ⟨.makeDirectory _, .ok dir⟩ => { s with dirs := dir :: s.dirs }
  | ⟨.removeTree dir, _⟩ => { s with dirs := s.dirs.filter (· != dir) }
  | ⟨.takeLock _, .ok lock⟩ => { s with locks := lock :: s.locks }
  | ⟨.releaseLock lock, _⟩ => { s with locks := s.locks.filter (· != lock) }
  | _ => s

/-- What may be asked at a stage. -/
def Allows (c : Config) (s : Stage) : Request → Prop
  | .startLogged command log =>
    -- the backend simulator comes first, and the other one behind it
    command.argv = [c.simulatorBin] ∧ s.isBackendLog log = true ∧ s.alive = []
      ∨ command.argv = [c.subjectBin] ∧ s.isSubjectLog log = true ∧ s.phase = .answering
        ∧ ∃ backend, s.alive = [backend]
  | .copyFile _ _ => s.alive = []
  | .remove _ => s.alive = []
  | .removeTree _ => s.alive = []
  | .releaseLock _ => s.alive = [] ∧ s.dirs = []
  | _ => True

end Stage

/-- The order that a run keeps. -/
def order (c : Config) : Protocol Stage where
  allows := Stage.Allows c
  leads s e s' := s' = s.next c e

variable {c : Config} {s s' : Stage}

open Protocol

/-! ### What is left -/

/-- Whether of the services, directories and locks of a run some are left at most. -/
structure Stage.Within (alive : List Pid) (dirs : List Text) (locks : List Nat) (s : Stage) :
    Prop where
  /-- No other service is left. -/
  alive : ∀ pid ∈ s.alive, pid ∈ alive
  /-- These directories are left. -/
  dirs : s.dirs = dirs
  /-- These locks are held. -/
  locks : s.locks = locks

variable {alive : List Pid} {dirs : List Text} {locks : List Nat}

theorem Stage.Within.alive_eq_nil (h : s.Within [] dirs locks) :
  s.alive = []
  := List.eq_nil_iff_forall_not_mem.2 fun pid hpid => List.not_mem_nil (h.alive pid hpid)

/-- What a group being killed leaves. -/
theorem Stage.Within.kill {group : Pid} (h : s.Within (group :: alive) dirs locks) :
  Stage.Within alive dirs locks { s with alive := s.alive.filter (· != group) }
  := by
  refine ⟨?_, h.dirs, h.locks⟩
  intro pid hpid
  obtain ⟨hmem, hne⟩ := List.mem_filter.1 hpid
  rcases List.mem_cons.1 (h.alive pid hmem) with rfl | hpid
  · simp at hne
  · apply hpid

/-- What is about no service, no directory and no lock leaves no more than was left. -/
theorem bears_within (c : Config) (alive : List Pid) (dirs : List Text) (locks : List Nat) :
  (order c).Bears (Request.KeepsTo (fun _ => True) fun _ _ => True) (Stage.Within alive dirs locks)
  := by
  intro q hq s hs
  have hfilter : ∀ group, Stage.Within alive dirs locks
      { s with alive := s.alive.filter (· != group) } := by
    intro group
    refine ⟨?_, hs.dirs, hs.locks⟩
    intro pid hpid
    apply hs.alive pid (List.mem_filter.1 hpid).1
  have hphase : ∀ phase, Stage.Within alive dirs locks { s with phase } :=
    fun _ => ⟨hs.alive, hs.dirs, hs.locks⟩
  have hallows : (order c).allows s q := by
    cases q <;> trivial
  apply keeps_single q hallows
  rintro a _ rfl
  cases q
  case connects address port =>
    rw [Stage.next]
    split
    · apply hphase
    · apply hs
  case signalGroup group signal =>
    rw [Stage.next]
    split
    · apply hfilter
    · apply hs
  -- the others leave the stage as it is
  all_goals first | exact hs | exact nomatch hq

/-! ### Services -/

variable {bad : Failure → Stage → Prop}

/-- A child that is ended is not left. -/
theorem keeps_terminate {o : Owner} {pid : Pid} (ho : o.child = some pid)
    (hs : s.Within (pid :: alive) dirs locks) :
  (order c).Keeps s (fun _ => Stage.Within alive dirs locks) bad (discard o.terminate)
  := by
  have hquiet := (bears_within c (pid :: alive) dirs locks).quiet
  apply Keeps.map
  unfold Owner.terminate
  rw [ho]
  apply hquiet.keeps_bind (.signalGroup pid Signal.terminate) rfl hs
  intro _ s₁ hs₁
  apply (keeps_graceLoop hquiet hs₁ pid _ o).bind
  intro o' s₂ hs₂
  apply keeps_single_bind (.signalGroup pid Signal.kill) trivial
  rintro _ _ rfl
  apply hs₂.kill

/-- A service runs while a program runs with it, and no longer. -/
theorem keeps_hold {α : Type} {service : Service} {body : Owner → Dialogue α}
    (hargv : service.argv ≠ []) (hlog : service.log ≠ []) (hs : s.Within alive dirs locks)
    (hallows : ∀ command, command.argv = service.argv →
      s.Allows c (.startLogged command service.log))
    (hbody : ∀ pid, (order c).Keeps (s.started service.log pid)
      (fun _ => Stage.Within (pid :: alive) dirs locks)
      (fun _ => Stage.Within (pid :: alive) dirs locks) (body { child := some pid })) :
  (order c).Keeps s (fun _ => Stage.Within alive dirs locks)
    (fun _ => Stage.Within alive dirs locks) (Owner.hold service body)
  := by
  have henvironment : (order c).Maintains (· = s) (Dialogue.single .environment) := by
    rintro _ rfl
    apply keeps_single .environment trivial
    rintro _ _ rfl
    rfl
  have hstarted : ∀ pid s', s' = s.started service.log pid →
      (order c).Keeps s' (fun _ => Stage.Within (pid :: alive) dirs locks)
        (fun _ => Stage.Within (pid :: alive) dirs locks) (body { child := some pid }) := by
    rintro pid _ rfl
    apply hbody pid
  apply Protocol.keeps_hold hargv hlog henvironment rfl (fun _ h => h ▸ hs) _ hstarted
  · intro pid s' hs'
    apply keeps_terminate rfl hs'
  · rintro entries _ rfl
    apply keeps_single (.startLogged _ service.log) (hallows _ rfl)
    rintro answer _ rfl
    cases answer with
    | ok pid => rfl
    | error why => exact ⟨hs.alive, hs.dirs, hs.locks⟩

/-! ### The wait for the backend simulator -/

/-- Whether a backend simulator is all that is left, and its subject was not started yet. -/
structure Stage.Waits (backend : Pid) (dirs : List Text) (locks : List Nat) (s : Stage) :
    Prop where
  /-- It is the only service. -/
  alive : s.alive = [backend]
  /-- It was started last. -/
  phase : s.phase ≠ .idle
  /-- These directories are left. -/
  dirs : s.dirs = dirs
  /-- These locks are held. -/
  locks : s.locks = locks

theorem Stage.Waits.within {backend : Pid} (h : s.Waits backend dirs locks) :
  s.Within [backend] dirs locks
  := by
  refine ⟨?_, h.dirs, h.locks⟩
  intro pid hpid
  rw [h.alive] at hpid
  apply hpid

/-- A look at the port of the backend simulator. -/
theorem keeps_connects {backend : Pid} (hs : s.Waits backend dirs locks) :
  (order c).Keeps s
    (fun answered s' => s'.Waits backend dirs locks ∧ (answered = true → s'.phase = .answering)) bad
    (connects loopback (portNumber c.backendPort))
  := by
  apply keeps_single (.connects loopback (portNumber c.backendPort)) trivial
  rintro answered _ rfl
  rw [Stage.next]
  cases answered with
  | false => exact ⟨hs, nofun⟩
  | true =>
    cases hphase : s.phase with
    | idle => exact absurd hphase hs.phase
    | launched =>
      rw [if_pos (by simp)]
      exact ⟨⟨hs.alive, nofun, hs.dirs, hs.locks⟩, fun _ => rfl⟩
    | answering =>
      rw [if_neg (by simp)]
      exact ⟨hs, fun _ => hphase⟩

theorem bears_waits (c : Config) (backend : Pid) (dirs : List Text) (locks : List Nat) :
  (order c).Bears (fun q => q = .interrupted ∨ ∃ ms, q = .sleep ms)
    (Stage.Waits backend dirs locks)
  := by
  rintro q (rfl | ⟨ms, rfl⟩) s hs
  · apply keeps_single .interrupted trivial
    rintro _ _ rfl
    apply hs
  · apply keeps_single (.sleep ms) trivial
    rintro _ _ rfl
    apply hs

theorem keeps_tryPort {backend : Pid} (hs : s.Waits backend dirs locks) (sleeps : Nat) :
  (order c).Keeps s
    (fun answered s' => s'.Waits backend dirs locks ∧ (answered = true → s'.phase = .answering))
    (fun _ => Stage.Waits backend dirs locks)
    (tryPort loopback (portNumber c.backendPort) sleeps)
  := by
  have hbears := bears_waits c backend dirs locks
  induction sleeps generalizing s with
  | zero =>
    apply (hbears.checkInterruption (.inl rfl) s hs).bind
    intro _ s' hs'
    apply keeps_connects hs'
  | succ sleeps ih =>
    apply (hbears.checkInterruption (.inl rfl) s hs).bind
    intro _ s' hs'
    apply (keeps_connects hs').bind
    rintro answered s₁ ⟨hs₁, hphase⟩
    split
    · rename_i hanswered
      exact ⟨hs₁, fun _ => hphase hanswered⟩
    · apply hbears.keeps_bind (.sleep sliceMs) (.inr ⟨_, rfl⟩) hs₁
      intro _ s₂ hs₂
      apply ih hs₂

/-- A wait for the backend simulator tells whether its port was seen open. -/
theorem keeps_awaitPort {backend : Pid} (hs : s.Waits backend dirs locks) (timeoutMs : Int) :
  (order c).Keeps s
    (fun answered s' => s'.Waits backend dirs locks ∧ (answered = true → s'.phase = .answering))
    (fun _ => Stage.Waits backend dirs locks)
    (awaitPort loopback c.backendPort timeoutMs)
  := by
  have haddress : isAddress (Text.untilNul loopback) = true := rfl
  unfold awaitPort
  dsimp only
  rw [haddress, Bool.not_true, if_neg Bool.false_ne_true]
  apply keeps_tryPort hs

/-! ### Measured rounds -/

section

variable {b : Bench Dialogue}

/-- The private directory of a bench is where its services log. -/
theorem isBackendLog_backendLog (hs : s.dirs = [b.workDir]) :
  s.isBackendLog b.backendLog = true
  := by
  simp [Stage.isBackendLog, Bench.backendLog, hs]

theorem isSubjectLog_subjectLog (hs : s.dirs = [b.workDir]) :
  s.isSubjectLog b.subjectLog = true
  := by
  simp [Stage.isSubjectLog, Bench.subjectLog, hs]

variable (hload : ∀ alive plan,
  (order b.config).Maintains (Stage.Within alive [b.workDir] locks) (b.load plan))

include hload

/-- The service under test is started behind its backend simulator, and ended before it. -/
theorem keeps_measureSubject {backend : Pid} (hs : s.Waits backend [b.workDir] locks)
    (hphase : s.phase = .answering) (sc : Scenario) :
  (order b.config).Keeps s (fun _ => Stage.Within [backend] [b.workDir] locks)
    (fun _ => Stage.Within [backend] [b.workDir] locks) (b.measureSubject sc)
  := by
  rw [Bench.measureSubject_eq]
  have hwrite : (order b.config).Keeps s (fun _ s' => s' = s)
      (fun _ => Stage.Within [backend] [b.workDir] locks)
      (b.subjectConfig.write (sc.subjectConfig b.config)) := by
    apply keeps_single_bind (.writeFile _ _) trivial
    rintro written _ rfl
    split
    · apply keeps_fail hs.within
    · apply keeps_pure
      rfl
  apply hwrite.bind
  rintro _ s' rfl
  apply keeps_hold (List.cons_ne_nil _ _) (Path.join_ne_nil (List.cons_ne_nil _ _)) hs.within
  · intro command hargv
    right
    use hargv, isSubjectLog_subjectLog hs.dirs, hphase, backend, hs.alive
  · intro subject
    have hstarted : Stage.Within [subject, backend] [b.workDir] locks
        (s'.started b.subjectLog subject) := by
      refine ⟨?_, hs.dirs, hs.locks⟩
      intro pid hpid
      rw [Stage.started, hs.alive] at hpid
      apply hpid
    apply maintains_measured (bears_within _ _ _ _) b trivial (hload _) sc _ _ hstarted

/-- A scenario starts with no service left and ends so. -/
theorem maintains_measure (sc : Scenario) :
  (order b.config).Maintains (Stage.Within [] [b.workDir] locks) (b.measure sc)
  := by
  intro s hs
  apply keeps_hold (List.cons_ne_nil _ _) (Path.join_ne_nil (List.cons_ne_nil _ _)) hs
  · intro command hargv
    left
    use hargv, isBackendLog_backendLog hs.dirs, hs.alive_eq_nil
  · intro backend
    have hstarted : Stage.Waits backend [b.workDir] locks (s.started b.backendLog backend) := by
      refine ⟨?_, ?_, hs.dirs, hs.locks⟩
      · rw [Stage.started, hs.alive_eq_nil]
      · rw [Stage.started, isBackendLog_backendLog hs.dirs]
        nofun
    apply ((keeps_awaitPort hstarted _).mono (fun _ _ h => h) fun _ _ h => h.within).bind
    rintro answered s' ⟨hs', hphase⟩
    cases answered with
    | false =>
      apply maintains_failShowingLog_bind (bears_within _ _ _ _).quiet _ _ _ _ _ hs'.within
    | true => apply keeps_measureSubject hload hs' (hphase rfl)

end

/-! ### Whole runs -/

/-- A run creates and removes its private directory, and puts files back, when no service is left.
-/
theorem hosts_within (c : Config) (locks : List Nat) :
  (order c).Hosts c (Stage.Within [] [] locks) (fun dir => Stage.Within [] [dir] locks)
  where
  quiet := (bears_within c [] [] locks).quiet
  makeDirectory template s hs := by
    apply keeps_single (.makeDirectory template) trivial
    rintro made _ rfl
    cases made with
    | ok dir => exact ⟨hs.alive, congrArg (dir :: ·) hs.dirs, hs.locks⟩
    | error why => apply hs
  removeTree dir s hs := by
    apply keeps_single (.removeTree dir) hs.alive_eq_nil
    rintro _ _ rfl
    refine ⟨hs.alive, ?_, hs.locks⟩
    simp [Stage.next, hs.dirs]
  keepsTo dir := (bears_within c [] [dir] locks).mono fun _ hq => hq.mono (fun _ h => h) nofun
  copyFile dir source target s hs := by
    apply keeps_single (.copyFile source target) hs.alive_eq_nil
    rintro _ _ rfl
    apply hs
  remove dir path s hs := by
    apply keeps_single (.remove path) hs.alive_eq_nil
    rintro _ _ rfl
    apply hs
  measure scenarios pins dir k _ s := by
    apply maintains_measure (b := bench c scenarios pins dir k)
    intro alive plan
    apply maintains_runLoad (bears_within _ _ _ _) _ trivial

/-- A lock is held while a program runs, and no longer. -/
theorem maintains_withLock {α : Type} {path : Text} {body : Dialogue α}
    (hbody : ∀ lock, (order c).Maintains (Stage.Within [] [] [lock]) body) :
  (order c).Maintains (Stage.Within [] [] []) (withLock path body)
  := by
  apply Protocol.maintains_withLock _ hbody
  · intro lock s hs
    have hallows : s.Allows c (.releaseLock lock) := ⟨hs.alive_eq_nil, hs.dirs⟩
    apply keeps_single (.releaseLock lock) hallows
    rintro _ _ rfl
    refine ⟨hs.alive, hs.dirs, ?_⟩
    simp [Stage.next, hs.locks]
  · intro s hs
    apply keeps_single (.takeLock path) trivial
    rintro taken _ rfl
    cases taken with
    | ok lock => exact ⟨hs.alive, hs.dirs, congrArg (lock :: ·) hs.locks⟩
    | error why => apply hs

theorem maintains_gate (c : Config) :
  (order c).Maintains (Stage.Within [] [] []) (gate c)
  := maintains_withLock fun lock => (hosts_within c [lock]).gateUnderLock

theorem maintains_recut (c : Config) (target : Text) :
  (order c).Maintains (Stage.Within [] [] []) (recut c target)
  := maintains_withLock fun lock => (hosts_within c [lock]).recutUnderLock target

end Live

end PerfGate
