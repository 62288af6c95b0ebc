import PerfGate.Live
import PerfGate.Proofs.Dialogue.Protocol
import PerfGate.Proofs.Path

/-!
# What the parts of a live run ask

Most of what a run asks is about no file that it writes, no lock and no service: it waits, looks,
and runs commands to their end.  What such requests leave as it is, is left as it is by every part
that asks nothing else, however long it takes and however it ends.  Files that are written and ports
that are looked at are told apart from that, so that a part can be held to some of them.
-/

namespace PerfGate

namespace Request

/-- Whether a request writes no file, takes no lock and starts no service. -/
def isInert : Request → Bool
  | writeFile _ _ | createDirectories _ | copyFile _ _ | remove _ | removeTree _
  | makeDirectory _ | takeLock _ | releaseLock _ | startLogged _ _ => false
  | _ => true

/-- Whether a request is inert and looks at no port. -/
def isQuiet : Request → Bool
  | connects _ _ => false
  | q => q.isInert

/-- Whether a request is inert or creates directories, or writes a file at one of some paths; it may
look at some ports. -/
def KeepsTo (paths : Text → Prop) (ports : Text → Nat → Prop) : Request → Prop
  | writeFile path _ => paths path
  | connects address port => ports address port
  | createDirectories _ => True
  | q => q.isInert = true

theorem isInert_of_isQuiet {q : Request} (h : q.isQuiet = true) :
  q.isInert = true
  := by
  cases q <;> first | exact h | cases h

theorem KeepsTo.mono {paths paths' : Text → Prop} {ports ports' : Text → Nat → Prop} {q : Request}
    (h : q.KeepsTo paths ports) (hpaths : ∀ path, paths path → paths' path)
    (hports : ∀ address port, ports address port → ports' address port) :
  q.KeepsTo paths' ports'
  := by
  cases q
  case writeFile path content => apply hpaths path h
  case connects address port => apply hports address port h
  all_goals exact h

theorem keepsTo_of_isQuiet {paths : Text → Prop} {ports : Text → Nat → Prop} {q : Request}
    (h : q.isQuiet = true) :
  q.KeepsTo paths ports
  := by
  cases q <;> first | exact h | cases h

end Request

namespace Bench

/-- What is done with a service under test that was started. -/
def measured (b : Bench Dialogue) (s : Scenario) (subject : Owner) : Dialogue (Text × Usage) := do
  let c := b.config
  if !(← awaitPort loopback c.proxyPort b.startupMs) then
    failShowingLog (RoundError.subjectNotReady c.subjectName c.startupTimeoutS) c.subjectName
      b.subjectLog
  b.prepare s
  let resolver : Resolver := { subject := c.subjectName }
  let pid := resolver.resolve (← processTree) (subject.child.getD (-1))
  let (output, usage) ← watching pid (b.load (b.request s))
  if c.requireBackendH2 then b.checkPurity s
  pure (output, usage)

theorem measureSubject_eq (b : Bench Dialogue) (s : Scenario) :
  b.measureSubject s =
    (do
      b.subjectConfig.write (s.subjectConfig b.config)
      Owner.hold b.subject (b.measured s))
  := rfl

end Bench

/-- The bench of a live run. -/
def Live.bench (c : Config) (scenarios : List Scenario) (pins : CoreChoice) (workDir : Text)
    (subjectConfig : KeptFile) : Bench Dialogue where
  config := c
  scenarios
  pins
  subjectConfig
  workDir
  load := runLoad c.wrkBin workDir

namespace Protocol

variable {S α : Type} {p : Protocol S} {I : S → Prop}

theorem Bears.quiet_of_isInert (h : p.Bears (fun q => q.isInert = true) I) :
  p.Bears (fun q => q.isQuiet = true) I
  := h.mono fun _ => Request.isInert_of_isQuiet

section

variable (h : p.Bears (fun q => q.isQuiet = true) I)

include h

/-! ### Commands -/

theorem maintains_collect (pipe : PipeId) (left : Nat) (out : Text) :
  p.Maintains I (Command.collect pipe left out)
  := by
  induction left generalizing out with
  | zero =>
    apply (h .interrupted rfl).bind
    intro stopped
    split <;> apply maintains_pure
  | succ left ih =>
    apply (h .interrupted rfl).bind
    intro stopped
    split
    · apply maintains_pure
    · apply (h (.listen pipe) rfl).bind
      intro heard
      split
      · apply ih
      · apply ih
      · apply maintains_pure
      · apply maintains_pure

theorem maintains_finish (pid : Pid) (pipe : PipeId) (budgetMs : Int) :
  p.Maintains I (Command.finish pid pipe budgetMs)
  := by
  apply (maintains_collect h pipe _ _).bind
  rintro ⟨leaving, output⟩
  apply (h (.hangUp pipe) rfl).bind
  intro _
  have hawait : p.Maintains I (do
      let exitCode := (← await pid).exitCode
      pure (leaving, ({ exitCode, output, timedOut := leaving == .timedOut } : Completion))) :=
    (h (.await pid) rfl).bind fun _ => maintains_pure _
  dsimp only
  split
  · apply (h (.signalGroup pid Signal.kill) rfl).bind
    intro _
    apply hawait
  · apply hawait

theorem maintains_run (argv : List Text) (budgetMs : Int) (core : Option Int) (withErrors : Bool) :
  p.Maintains I (Command.run argv budgetMs core withErrors)
  := by
  unfold Command.run
  split
  · apply maintains_fail_bind
  · apply (h .environment rfl).bind
    intro entries
    apply (h (.startPiped _ withErrors) rfl).bind
    intro started
    apply (maintains_ofExcept _ _).bind
    rintro ⟨pid, pipe⟩
    apply (maintains_finish h pid pipe budgetMs).bind
    rintro ⟨leaving, result⟩
    dsimp only
    split
    · apply (h.checkInterruption rfl).bind
      intro _
      apply maintains_pure
    · apply maintains_pure

/-! ### Waiting -/

theorem maintains_sleepInterruptibly (ms : Nat) :
  p.Maintains I (sleepInterruptibly ms)
  := by
  have hslices : ∀ times : List Nat, p.Maintains I (times.forM fun s => do
      checkInterruption
      sleep s : Dialogue PUnit) := by
    intro times
    induction times with
    | nil => apply maintains_pure
    | cons s times ih =>
      apply ((h.checkInterruption rfl).bind fun _ => h (.sleep s) rfl).bind
      intro _
      apply ih
  apply (hslices _).bind
  intro _
  apply h.checkInterruption rfl

/-! ### Probes -/

theorem maintains_post? (client url body : Text) (connectTimeoutS maxTimeS : Int) :
  p.Maintains I (Probe.post? client url body connectTimeoutS maxTimeS)
  := (maintains_run h _ _ _ _).bind fun _ => maintains_pure _

theorem maintains_fetch? (client url : Text) (http2 : Bool) (maxTimeS : Int) :
  p.Maintains I (Probe.fetch? client url http2 maxTimeS)
  := (maintains_run h _ _ _ _).bind fun _ => maintains_pure _

theorem maintains_readyBefore (client url body : Text) (deadline : Int) (tries : Nat) :
  p.Maintains I (Probe.readyBefore client url body deadline tries)
  := by
  induction tries with
  | zero => apply maintains_pure
  | succ tries ih =>
    apply (h .now rfl).bind
    intro time
    split
    · apply maintains_pure
    · apply (maintains_post? h client url body 1 1).bind
      intro status
      split
      · apply maintains_pure
      · apply (maintains_sleepInterruptibly h _).bind
        intro _
        apply ih

theorem maintains_untilReady (client url body : Text) (timeoutMs : Int) :
  p.Maintains I (Probe.untilReady client url body timeoutMs)
  := by
  apply (h .now rfl).bind
  intro time
  apply maintains_readyBefore h

theorem maintains_warmUp (client url body : Text) (connectTimeoutS maxTimeS : Int)
    (count answered : Nat) :
  p.Maintains I (Probe.warmUp client url body connectTimeoutS maxTimeS count answered)
  := by
  induction count generalizing answered with
  | zero => apply maintains_pure
  | succ count ih =>
    apply (h.checkInterruption rfl).bind
    intro _
    apply (maintains_post? h client url body connectTimeoutS maxTimeS).bind
    intro status
    apply ih

/-! ### The end of a child -/

theorem keeps_look {s : S} (hs : I s) (o : Owner) {bad : Failure → S → Prop} :
  p.Keeps s (fun _ => I) bad o.look
  := by
  unfold Owner.look
  split
  · apply keeps_pure hs
  · rename_i pid hchild
    apply h.keeps_bind (.reap pid) rfl hs
    intro how s' hs'
    apply keeps_pure hs'

/-- The time of grace ends without a failure. -/
theorem keeps_graceLoop {s : S} (hs : I s) (group : Pid) (sleeps : Nat) (o : Owner)
    {bad : Failure → S → Prop} :
  p.Keeps s (fun _ => I) bad (Owner.graceLoop group sleeps o)
  := by
  induction sleeps generalizing s o with
  | zero =>
    apply (keeps_look h hs o).bind
    intro o' s' hs'
    split
    · apply keeps_pure hs'
    · apply h.keeps_bind (.warn _) rfl hs'
      intro _ s₁ hs₁
      apply h.keeps_bind (.signalGroup group Signal.kill) rfl hs₁
      intro _ s₂ hs₂
      apply h.keeps_bind (.await group) rfl hs₂
      intro how s₃ hs₃
      apply keeps_pure hs₃
  | succ sleeps ih =>
    apply (keeps_look h hs o).bind
    intro o' s' hs'
    split
    · apply keeps_pure hs'
    · apply h.keeps_bind (.sleep _) rfl hs'
      intro _ s₁ hs₁
      apply ih hs₁

theorem maintains_terminate (o : Owner) :
  p.Maintains I (discard o.terminate)
  := by
  intro s hs
  apply Keeps.map
  unfold Owner.terminate
  split
  · apply keeps_pure hs
  · rename_i group hchild
    apply h.keeps_bind (.signalGroup group Signal.terminate) rfl hs
    intro _ s₁ hs₁
    apply (keeps_graceLoop h hs₁ group _ o).bind
    intro o' s₂ hs₂
    apply h.keeps_bind (.signalGroup group Signal.kill) rfl hs₂
    intro _ s₃ hs₃
    apply keeps_pure hs₃

omit h in
/-- A service is held where its start leads from outside to inside, and its end back. -/
theorem keeps_hold {s : S} {before outside : S → Prop} {started inside : Pid → S → Prop}
    {service : Service} {body : Owner → Dialogue α} (hargv : service.argv ≠ [])
    (hlog : service.log ≠ [])
    (henvironment : p.Maintains before (Dialogue.single .environment)) (hs : before s)
    (hbefore : ∀ s', before s' → outside s')
    (hstart : ∀ entries s', before s' →
      p.Keeps s' (granted started outside) (fun _ => outside)
        (Dialogue.single (.startLogged
          { argv := service.argv, environment := Environment.override entries service.overrides,
            core := service.core } service.log)))
    (hbody : ∀ pid s', started pid s' →
      p.Keeps s' (fun _ => inside pid) (fun _ => inside pid) (body { child := some pid }))
    (hend : ∀ pid s', inside pid s' → p.Keeps s' (fun _ => outside) (fun _ => outside)
      (discard (Owner.terminate { child := some pid }))) :
  p.Keeps s (fun _ => outside) (fun _ => outside) (Owner.hold service body)
  := by
  have hstarted : p.Keeps s (fun o s' => ∃ pid, o = { child := some pid } ∧ started pid s')
      (fun _ => outside) (Owner.start service) := by
    unfold Owner.start
    rw [if_neg (by simpa using hargv)]
    apply henvironment.keeps_bind hs (fun _ => hbefore)
    intro entries s₁ hs₁
    dsimp only
    rw [if_neg (by simpa using hlog)]
    apply (hstart entries s₁ hs₁).granted_bind
    intro pid s₂ hs₂
    use pid, rfl, hs₂
  apply hstarted.bind
  rintro o s' ⟨pid, rfl, hs'⟩
  apply (hbody pid s' hs').ensuring_same (hend pid)

/-- A service is held where its start leaves something so. -/
theorem maintains_hold {service : Service} {body : Owner → Dialogue α} (hargv : service.argv ≠ [])
    (hlog : service.log ≠ [])
    (hstart : ∀ command, p.Maintains I (Dialogue.single (.startLogged command service.log)))
    (hbody : ∀ o, p.Maintains I (body o)) :
  p.Maintains I (Owner.hold service body)
  := by
  intro s hs
  have hgranted : ∀ entries s', I s' → p.Keeps s' (granted (fun _ => I) I) (fun _ => I)
      (Dialogue.single (.startLogged
        { argv := service.argv, environment := Environment.override entries service.overrides,
          core := service.core } service.log)) := by
    intro entries s' hs'
    apply (hstart _ s' hs').mono
    · intro answer s₁ hs₁
      cases answer <;> exact hs₁
    · intro _ _ h
      apply h
  apply keeps_hold hargv hlog (h .environment rfl) hs (fun _ h => h) hgranted
  · intro pid
    apply hbody
  · intro pid
    apply maintains_terminate h

/-! ### Logs of services -/

theorem maintains_showLogHead (label log : Text) :
  p.Maintains I (showLogHead label log)
  := by
  apply (h (.warn _) rfl).bind
  intro _
  apply (h (.readFile log) rfl).bind
  intro content
  apply (h (.warn _) rfl).bind
  intro _
  apply h (.warn _) rfl

/-- An error that is shown with a log is the end. -/
theorem keeps_failShowingLog {s : S} (hs : I s) (e : RunError) (label log : Text) :
  p.Keeps s (fun _ _ => False) (fun _ => I) (failShowingLog e label log : Dialogue α)
  := by
  apply (h (.warn _) rfl s hs).bind
  intro _ s₁ hs₁
  apply (maintains_showLogHead h label log s₁ hs₁).bind
  intro _ s₂ hs₂
  apply keeps_fail hs₂

theorem maintains_failShowingLog (e : RunError) (label log : Text) :
  p.Maintains I (failShowingLog e label log : Dialogue α)
  := by
  intro s hs
  apply (keeps_failShowingLog h hs e label log).mono
  · intro _ _ hfalse
    cases hfalse
  · intro _ s' hs'
    apply hs'

/-- What would come after an error that is shown with a log is not asked. -/
theorem maintains_failShowingLog_bind {β : Type} (e : RunError) (label log : Text)
    (f : α → Dialogue β) :
  p.Maintains I (failShowingLog e label log >>= f)
  := by
  intro s hs
  apply (keeps_failShowingLog h hs e label log).bind
  intro _ _ hfalse
  cases hfalse

/-! ### Phases of a measurement -/

variable (b : Bench Dialogue) (s : Scenario)

theorem maintains_prepare :
  p.Maintains I (b.prepare s)
  := by
  apply (maintains_untilReady h _ _ _ _).bind
  intro ready
  split
  · apply maintains_failShowingLog_bind h
  · apply (maintains_warmUp h _ _ _ _ _ _ _).bind
    intro answered
    apply h (.say _) rfl

theorem maintains_watching {pid : Pid} {body : Dialogue α} (hbody : p.Maintains I body) :
  p.Maintains I (Bench.watching pid body)
  := by
  apply (h (.readProcess pid) rfl).bind
  intro reading
  apply (h .now rfl).bind
  intro startMs
  apply (h (.startReadings pid Bench.readingEveryMs) rfl).bind
  intro started
  split
  · apply maintains_throw_bind
  · have hcaught : p.Maintains I (tryCatch body fun e => do
        let _ ← stopReadings
        throw e) := by
      apply hbody.tryCatch
      intro e
      apply (h .stopReadings rfl).bind
      intro _
      apply maintains_throw
    apply hcaught.bind
    intro a
    apply (h .now rfl).bind
    intro stopMs
    apply (h .stopReadings rfl).bind
    intro readings
    apply (h (.readProcess pid) rfl).bind
    intro reading
    apply maintains_pure

theorem maintains_checkPurity :
  p.Maintains I (b.checkPurity s)
  := by
  apply (maintains_fetch? h _ _ _ _).bind
  intro body
  split
  · apply maintains_failShowingLog h
  · split
    · apply maintains_failShowingLog_bind h
    · apply h (.say _) rfl

/-! ### Preparation of a run -/

theorem maintains_isExecutable (path : Text) :
  p.Maintains I (isExecutable path)
  := by
  apply (h (.mayExecute path) rfl).bind
  intro executable
  split
  · apply (h (.isDirectory path) rfl).bind
    intro directory
    apply maintains_pure
  · apply maintains_pure

theorem maintains_firstExecutable? (paths : List Text) :
  p.Maintains I (firstExecutable? paths)
  := by
  induction paths with
  | nil => apply maintains_pure
  | cons path paths ih =>
    apply (maintains_isExecutable h path).bind
    intro executable
    split
    · apply maintains_pure
    · apply ih

theorem maintains_locate? (program : Text) :
  p.Maintains I (locate? program)
  := by
  apply (h .environment rfl).bind
  intro entries
  apply maintains_firstExecutable? h

theorem maintains_demandProgram (program role : Text) :
  p.Maintains I (demandProgram program role)
  := by
  apply (maintains_locate? h program).bind
  intro found
  split
  · apply maintains_fail
  · apply maintains_pure

theorem maintains_requirePrograms (c : Config) :
  p.Maintains I (Live.requirePrograms c)
  := by
  apply (maintains_demandProgram h _ _).bind
  intro _
  apply (maintains_demandProgram h _ _).bind
  intro _
  apply (maintains_demandProgram h _ _).bind
  intro _
  apply maintains_demandProgram h

theorem maintains_readBaseline (path : Text) (wanted : List ScenarioName) :
  p.Maintains I (readBaseline path wanted)
  := by
  apply (h (.isRegularFile path) rfl).bind
  intro there
  split
  · apply maintains_fail_bind
  · apply (h (.readFile path) rfl).bind
    intro content
    apply maintains_ofExcept

theorem maintains_chooseCores (c : Config) :
  p.Maintains I (Live.chooseCores c)
  := by
  apply (h .processors rfl).bind
  intro processors
  apply (h (.say _) rfl).bind
  intro _
  apply maintains_pure

theorem maintains_findRevision :
  p.Maintains I Live.findRevision
  := by
  apply (maintains_locate? h _).bind
  intro found
  split
  · apply maintains_pure
  · apply (maintains_run h _ _ _ _).bind
    intro r
    apply maintains_pure

theorem maintains_captureOrigin :
  p.Maintains I Live.captureOrigin
  := by
  apply (h .wallClock rfl).bind
  intro seconds
  apply (h .hostName rfl).bind
  intro hostname
  apply (maintains_findRevision h).bind
  intro revision
  apply maintains_pure

/-- The provenance of a run has the stamp of some moment. -/
theorem keeps_captureOrigin {s : S} (hs : I s) :
  p.Keeps s
    (fun origin s' => I s' ∧ ∃ seconds, origin.fileStamp = (Moment.ofSeconds seconds).stamp)
    (fun _ => I) Live.captureOrigin
  := by
  apply h.keeps_bind .wallClock rfl hs
  intro seconds s₁ hs₁
  apply h.keeps_bind .hostName rfl hs₁
  intro hostname s₂ hs₂
  apply (maintains_findRevision h s₂ hs₂).bind
  intro revision s₃ hs₃
  apply keeps_pure
  use hs₃, seconds

end

section

variable {paths : Text → Prop} {ports : Text → Nat → Prop}
  (h : p.Bears (Request.KeepsTo paths ports) I)

include h

theorem Bears.quiet :
  p.Bears (fun q => q.isQuiet = true) I
  := h.mono fun _ => Request.keepsTo_of_isQuiet

/-! ### Ports -/

theorem maintains_tryPort {address : Text} {port : Nat} (hport : ports address port)
    (sleeps : Nat) :
  p.Maintains I (tryPort address port sleeps)
  := by
  induction sleeps with
  | zero =>
    apply (h.quiet.checkInterruption rfl).bind
    intro _
    apply h (.connects address port) hport
  | succ sleeps ih =>
    apply (h.quiet.checkInterruption rfl).bind
    intro _
    apply (h (.connects address port) hport).bind
    intro answered
    split
    · apply maintains_pure
    · apply (h.quiet (.sleep sliceMs) rfl).bind
      intro _
      apply ih

/-- A wait for a local port looks at nothing else. -/
theorem maintains_awaitPort {port : Int} (hport : ports loopback (portNumber port))
    (timeoutMs : Int) :
  p.Maintains I (awaitPort loopback port timeoutMs)
  := by
  unfold awaitPort
  dsimp only
  split
  · apply maintains_fail_bind
  · apply maintains_tryPort h hport

/-! ### Configurations and load runs -/

theorem maintains_write {k : KeptFile} (hk : paths k.target) (content : Text) :
  p.Maintains I (k.write content)
  := by
  apply (h (.writeFile k.target content) hk).bind
  intro written
  split
  · apply maintains_fail
  · apply maintains_pure

theorem maintains_runLoad (program : Text) {scriptDir : Text}
    (hscript : paths (Path.join scriptDir "wrk.lua".toList)) (plan : LoadPlan) :
  p.Maintains I (runLoad program scriptDir plan)
  := by
  apply (h (.writeFile _ _) hscript).bind
  intro written
  split
  · apply maintains_fail_bind
  · apply (maintains_run h.quiet _ _ _ _).bind
    intro result
    apply (h.quiet (.say _) rfl).bind
    intro _
    apply maintains_ofExcept

/-- What is measured of a service under test that is up. -/
theorem maintains_measured (b : Bench Dialogue)
    (hport : ports loopback (portNumber b.config.proxyPort))
    (hload : ∀ plan, p.Maintains I (b.load plan)) (s : Scenario) (subject : Owner) :
  p.Maintains I (b.measured s subject)
  := by
  apply (maintains_awaitPort h hport _).bind
  intro answered
  dsimp only
  split
  · apply maintains_failShowingLog_bind h.quiet
  · apply (maintains_prepare h.quiet b s).bind
    intro _
    apply (h.quiet .processTree rfl).bind
    intro tree
    apply (maintains_watching h.quiet (hload _)).bind
    rintro ⟨output, usage⟩
    dsimp only
    split
    · apply (maintains_checkPurity h.quiet b s).bind
      intro _
      apply maintains_pure
    · apply maintains_pure

/-- A scenario is measured where the starts of its services and the write of its configuration leave
something so. -/
theorem maintains_measure (b : Bench Dialogue) (hconfig : paths b.subjectConfig.target)
    (hbackend : ports loopback (portNumber b.config.backendPort))
    (hproxy : ports loopback (portNumber b.config.proxyPort))
    (hstart : ∀ command log, log = b.backendLog ∨ log = b.subjectLog →
      p.Maintains I (Dialogue.single (.startLogged command log)))
    (hload : ∀ plan, p.Maintains I (b.load plan)) (s : Scenario) :
  p.Maintains I (b.measure s)
  := by
  apply maintains_hold h.quiet (List.cons_ne_nil _ _) (Path.join_ne_nil (List.cons_ne_nil _ _))
  · intro command
    apply hstart command _ (.inl rfl)
  · intro _
    apply (maintains_awaitPort h hbackend _).bind
    intro answered
    dsimp only
    split
    · apply maintains_failShowingLog_bind h.quiet
    · apply (maintains_write h hconfig _).bind
      intro _
      apply maintains_hold h.quiet (List.cons_ne_nil _ _) (Path.join_ne_nil (List.cons_ne_nil _ _))
      · intro command
        apply hstart command _ (.inr rfl)
      · intro subject
        apply maintains_measured h b hproxy hload

/-! ### Measured rounds -/

section

variable (b : Bench Dialogue) (hmeasure : ∀ s, p.Maintains I (b.measure s))

include hmeasure

theorem maintains_scenarioLog (s : Scenario) :
  p.Maintains I (b.scenarioLog s)
  := by
  apply (h.quiet (.say _) rfl).bind
  intro _
  apply (hmeasure s).bind
  rintro ⟨output, usage⟩
  apply (maintains_ofExcept _ _).bind
  intro lines
  apply (h.quiet (.say _) rfl).bind
  intro _
  apply maintains_pure

theorem maintains_roundLog (scenarios : List Scenario) :
  p.Maintains I (b.roundLog scenarios)
  := by
  induction scenarios with
  | nil => apply maintains_pure
  | cons s scenarios ih =>
    apply (h.quiet.checkInterruption rfl).bind
    intro _
    apply (maintains_scenarioLog h b hmeasure s).bind
    intro log
    apply ih.bind
    intro rest
    apply maintains_pure

theorem maintains_measureRound (hlog : ∀ index, paths (b.roundLogFile index))
    (index target : Int) :
  p.Maintains I (b.measureRound index target)
  := by
  apply (maintains_roundLog h b hmeasure _).bind
  intro log
  apply (h (.writeFile _ _) (hlog index)).bind
  intro written
  split
  · apply (h.quiet (.warn _) rfl).bind
    intro _
    apply maintains_ofExcept
  · apply maintains_ofExcept

end

/-! ### Rounds -/

section

variable {run : Int → Int → History Binary64 → Dialogue (History Binary64)}

omit h in
theorem maintains_runPlanned (hrun : ∀ index target hist, p.Maintains I (run index target hist))
    (target : Int) (n : Nat) (done : Int) (hist : History Binary64) :
  p.Maintains I (runPlanned run target n done hist)
  := by
  induction n generalizing done hist with
  | zero => apply maintains_pure
  | succ n ih =>
    apply (hrun _ _ _).bind
    intro hist'
    apply ih

theorem maintains_runExtra (hrun : ∀ index target hist, p.Maintains I (run index target hist))
    (policy : Policy Binary64) (left : Nat) (done : Int) (hist : History Binary64) :
  p.Maintains I (runExtra run policy left done hist)
  := by
  induction left generalizing done hist with
  | zero => apply maintains_pure
  | succ left ih =>
    rw [runExtra]
    split
    · apply (h.quiet (.say _) rfl).bind
      intro _
      apply (hrun _ _ _).bind
      intro hist'
      apply ih
    · apply maintains_pure

end

variable {source : RoundProducer Dialogue}
  (hsource : ∀ index target, p.Maintains I (source index target))

include hsource

theorem maintains_announceRound (label : Text) (index target : Int) :
  p.Maintains I (announceRound label source index target)
  := by
  apply (h.quiet (.say _) rfl).bind
  intro _
  apply hsource

theorem maintains_judgeRounds (scenarios : List ScenarioName) (b : Baseline Binary64)
    (policy : Policy Binary64) :
  p.Maintains I (judgeRounds source scenarios b policy)
  := by
  have hround : ∀ index target hist,
      p.Maintains I (gateRound source b policy index target hist) := by
    intro index target hist
    apply (maintains_announceRound h hsource _ _ _).bind
    intro round
    apply (maintains_ofExcept _ _).bind
    intro hist'
    apply maintains_ofExcept
  apply (maintains_ofExcept _ _).bind
  intro _
  apply (maintains_runPlanned hround _ _ _ _).bind
  intro hist
  dsimp only
  split
  · apply maintains_ofExcept
  · apply (maintains_runExtra h hround _ _ _ _).bind
    intro hist'
    apply maintains_ofExcept

theorem maintains_recordRounds (scenarios : List ScenarioName) (rounds : Int) :
  p.Maintains I (recordRounds source scenarios rounds)
  := by
  apply maintains_runPlanned
  intro index target hist
  apply (maintains_announceRound h hsource _ _ _).bind
  intro round
  apply maintains_ofExcept

omit hsource

/-! ### Reports and sheets -/

theorem maintains_writeReport (report : Text) {outDir stem stamp : Text}
    (htimestamped : paths (ReportFiles.of outDir stem stamp).timestamped)
    (hlatest : paths (ReportFiles.of outDir stem stamp).latest) :
  p.Maintains I (writeReport report outDir stem stamp)
  := by
  apply (h (.createDirectories outDir) trivial).bind
  intro refusal
  split
  · apply maintains_fail_bind
  · apply (h (.writeFile _ report) htimestamped).bind
    intro written
    split
    · apply maintains_fail_bind
    · apply (h (.writeFile _ report) hlatest).bind
      intro written
      split
      · apply maintains_fail_bind
      · apply maintains_pure

theorem maintains_writeSheet {path : Text} (hpath : paths path) (d : BaselineSheet) :
  p.Maintains I (writeSheet path d)
  := by
  have hwrite : p.Maintains I (do
      if !(← writeFile path d.toText) then fail (BaselineError.notWritten path)) := by
    apply (h (.writeFile path _) hpath).bind
    intro written
    split
    · apply maintains_fail
    · apply maintains_pure
  unfold writeSheet
  split
  · apply (h (.createDirectories _) trivial).bind
    intro _
    apply hwrite
  · apply hwrite

include hsource

theorem maintains_gateWith (c : Config) (scenarios : List ScenarioName) (b : Baseline Binary64)
    (origin : RunMeta)
    (htimestamped : paths (ReportFiles.of c.outDir c.reportStem origin.fileStamp).timestamped)
    (hlatest : paths (ReportFiles.of c.outDir c.reportStem origin.fileStamp).latest) :
  p.Maintains I (gateWith source c scenarios b origin)
  := by
  apply (maintains_judgeRounds h hsource _ _ _).bind
  intro verdict
  apply (maintains_writeReport h _ htimestamped hlatest).bind
  intro files
  apply (h.quiet (.say _) rfl).bind
  intro _
  apply (h.quiet (.say _) rfl).bind
  intro _
  apply maintains_pure

theorem maintains_recutWith (c : Config) (scenarios : List ScenarioName) (origin : RunMeta)
    {target : Text} (htarget : paths target) :
  p.Maintains I (recutWith source c scenarios origin target)
  := by
  apply (maintains_recordRounds h hsource _ _).bind
  intro hist
  apply (maintains_writeSheet h htarget _).bind
  intro _
  apply (h.quiet (.say _) rfl).bind
  intro _
  apply maintains_pure

end

end Protocol

end PerfGate
