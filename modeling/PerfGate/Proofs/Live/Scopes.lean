import PerfGate.Proofs.Live.Parts

/-!
# What a live run holds

A run holds a private directory, the former configuration of the service under test and the run
lock, each for as long as a part of it lasts.  What is so outside of such a part and what is so
inside of it are told apart; the legs of a dual gate, and whole runs, are put together from the
parts.
-/

namespace PerfGate

namespace Protocol

variable {S α : Type} {p : Protocol S} {I : S → Prop}

/-! ### Locks, directories and files -/

/-- A lock is held where taking it leads from outside to inside, and giving it back leads back. -/
theorem maintains_withLock {path : Text} {body : Dialogue α} {inside : Nat → S → Prop}
    (htake : ∀ s, I s → p.Keeps s (granted inside I) (fun _ => I)
      (Dialogue.single (.takeLock path)))
    (hbody : ∀ lock, p.Maintains (inside lock) body)
    (hrelease : ∀ lock s, inside lock s →
      p.Keeps s (fun _ => I) (fun _ => I) (Dialogue.single (.releaseLock lock))) :
  p.Maintains I (withLock path body)
  := by
  intro s hs
  apply (htake s hs).granted_bind
  intro lock s' hs'
  apply (hbody lock s' hs').ensuring_same (hrelease lock)

variable {inside : Text → S → Prop}

/-- A private directory is there where its creation leads from outside to inside, and its removal
leads back. -/
theorem maintains_withTempDirectory (h : p.Bears (fun q => q.isQuiet = true) I) {name : Text}
    {body : Text → Dialogue α}
    (hmake : ∀ template s, I s → p.Keeps s (granted inside I) (fun _ => I)
      (Dialogue.single (.makeDirectory template)))
    (hbody : ∀ dir, p.Maintains (inside dir) (body dir))
    (hremove : ∀ dir s, inside dir s →
      p.Keeps s (fun _ => I) (fun _ => I) (Dialogue.single (.removeTree dir))) :
  p.Maintains I (withTempDirectory name body)
  := by
  intro s hs
  have hmade : p.Keeps s inside (fun _ => I) (makeTempDirectory name) := by
    apply h.keeps_bind .environment rfl hs
    intro entries s₁ hs₁
    apply h.keeps_bind (.isDirectory _) rfl hs₁
    intro there s₂ hs₂
    apply (hmake _ s₂ hs₂).bind
    intro made s₃ hs₃
    cases made with
    | ok dir => apply hs₃
    | error why => apply hs₃
  apply hmade.bind
  intro dir s' hs'
  apply (hbody dir s' hs').ensuring_same (hremove dir)

/-- A file is kept where a copy and a removal leave something so. -/
theorem maintains_guarding (h : p.Bears (fun q => q.isQuiet = true) I) {target dir : Text}
    {body : KeptFile → Dialogue α}
    (hcopy : ∀ source target, p.Maintains I (Dialogue.single (.copyFile source target)))
    (hremove : ∀ path, p.Maintains I (Dialogue.single (.remove path)))
    (hbody : ∀ k, k.target = target → p.Maintains I (body k)) :
  p.Maintains I (KeptFile.guarding target dir body)
  := by
  intro s hs
  have hkeep : p.Keeps s (fun k s' => k.target = target ∧ I s') (fun _ => I)
      (KeptFile.keep target dir) := by
    apply h.keeps_bind (.pathExists target) rfl hs
    intro there s₁ hs₁
    dsimp only
    split
    · apply (hcopy target _ s₁ hs₁).bind
      intro refusal s₂ hs₂
      split
      · apply hs₂
      · exact ⟨rfl, hs₂⟩
    · exact ⟨rfl, hs₁⟩
  have hrestore : ∀ k : KeptFile, p.Maintains I k.restore := by
    intro k
    unfold KeptFile.restore
    split
    · apply (hcopy k.backup k.target).bind
      intro refusal
      split
      · apply h (.warn _) rfl
      · apply maintains_pure
    · apply hremove k.target
  apply hkeep.bind
  rintro k s' ⟨hk, hs'⟩
  apply (hbody k hk).ensuring (hrestore k) s' hs'

end Protocol

/-! ### Legs -/

namespace DualGate

/-- What is done for a dual gate while the lock is held. -/
def runUnderLock (runner : Config → Dialogue Outcome) (d : DualConfig) (origin : RunMeta) :
    Dialogue DualResult := do
  say "[dual-gate] pinned hard gate start\n".toList
  let pinned ← runLeg runner d.pinnedLeg pinnedName
  let unpinned ← if d.skipUnpinned then pure .skipped else observe runner d
  let text := summary d pinned.verdict.pass unpinned origin
  let path := summaryFile d
  if !(← writeFile path text) then fail (HostError.fileNotWritten path)
  say (Text.untilNul text)
  pure { pinned, unpinned, summaryFile := path }

theorem run_eq_withLock (runner : Config → Dialogue Outcome) (d : DualConfig) (origin : RunMeta) :
  run runner d origin = withLock d.base.lockFile (runUnderLock runner d origin)
  := rfl

end DualGate

namespace Protocol

variable {S : Type} {p : Protocol S} {I : S → Prop} {runner : Config → Dialogue Outcome}

/-- A leg leaves something so if its run and the copy of its report do. -/
theorem maintains_runLeg {c : Config} {leg : Text} (hrun : p.Maintains I (runner c))
    (hcopy : ∀ source, p.Maintains I
      (Dialogue.single (.copyFile source (DualGate.legReport c.outDir c.reportStem leg)))) :
  p.Maintains I (DualGate.runLeg runner c leg)
  := by
  apply hrun.bind
  intro o
  have hkeep : p.Maintains I (DualGate.keepReport o c leg) := by
    apply (hcopy o.report.latest).bind
    intro refusal
    split
    · apply maintains_fail
    · apply maintains_pure
  apply hkeep.bind
  intro _
  apply maintains_pure

variable (h : p.Bears (fun q => q.isQuiet = true) I) {d : DualConfig}
  (hunpinned : p.Maintains I (DualGate.runLeg runner d.unpinnedLeg DualGate.unpinnedName))

include h hunpinned

theorem maintains_observe :
  p.Maintains I (DualGate.observe runner d)
  := by
  apply (h (.say _) rfl).bind
  intro _
  apply Maintains.tryCatch
  · apply hunpinned.bind
    intro o
    apply maintains_pure
  · intro e
    apply (h .interrupted rfl).bind
    intro stopped
    split
    · apply maintains_throw_bind
    · apply (h (.warn _) rfl).bind
      intro _
      apply maintains_pure

/-- A dual gate under the lock leaves something so if its legs and its summary do. -/
theorem maintains_runUnderLock
    (hpinned : p.Maintains I (DualGate.runLeg runner d.pinnedLeg DualGate.pinnedName))
    (hsummary : ∀ text, p.Maintains I
      (Dialogue.single (.writeFile (DualGate.summaryFile d) text)))
    (origin : RunMeta) :
  p.Maintains I (DualGate.runUnderLock runner d origin)
  := by
  apply (h (.say _) rfl).bind
  intro _
  apply hpinned.bind
  intro pinned
  have hend : ∀ unpinned, p.Maintains I (do
      let text := DualGate.summary d pinned.verdict.pass unpinned origin
      let path := DualGate.summaryFile d
      if !(← writeFile path text) then fail (HostError.fileNotWritten path)
      say (Text.untilNul text)
      pure ({ pinned, unpinned, summaryFile := path } : DualResult)) := by
    intro unpinned
    apply (hsummary _).bind
    intro written
    split
    · apply maintains_fail_bind
    · apply (h (.say _) rfl).bind
      intro _
      apply maintains_pure
  split
  · apply (maintains_pure _).bind hend
  · apply (maintains_observe h hunpinned).bind hend

end Protocol

/-! ### Runs -/

namespace Live

/-- What is done to record a baseline while the lock is held. -/
def recutUnderLock (c : Config) (target : Text) : Dialogue BaselineSheet := do
  say c.shown
  let scenarios := Scenario.all c.includeAliasRemap
  requirePrograms c
  let pins ← chooseCores c
  let origin ← captureOrigin
  withBench c scenarios pins fun source =>
    recutWith source c (scenarios.map (·.id)) origin target

theorem recut_eq (c : Config) (target : Text) :
  recut c target = withLock c.lockFile (recutUnderLock c target)
  := rfl

end Live

namespace Protocol

variable {S : Type}

/-- Whether measured rounds may be run with some settings, where something is so outside of the
private directory, and something inside of it. -/
structure Hosts (p : Protocol S) (c : Config) (outside : S → Prop) (inside : Text → S → Prop) :
    Prop where
  /-- What is quiet leaves the outside so. -/
  quiet : p.Bears (fun q => q.isQuiet = true) outside
  /-- The creation of the directory leads inside. -/
  makeDirectory : ∀ template s, outside s → p.Keeps s (granted inside outside) (fun _ => outside)
    (Dialogue.single (.makeDirectory template))
  /-- Its removal leads outside. -/
  removeTree : ∀ dir s, inside dir s →
    p.Keeps s (fun _ => outside) (fun _ => outside) (Dialogue.single (.removeTree dir))
  /-- What writes and looks at no port leaves the inside so. -/
  keepsTo : ∀ dir, p.Bears (Request.KeepsTo (fun _ => True) fun _ _ => False) (inside dir)
  /-- A copy does. -/
  copyFile : ∀ dir source target,
    p.Maintains (inside dir) (Dialogue.single (.copyFile source target))
  /-- The removal of a file does. -/
  remove : ∀ dir path, p.Maintains (inside dir) (Dialogue.single (.remove path))
  /-- A scenario does. -/
  measure : ∀ scenarios pins dir k, k.target = c.subjectConfig →
    ∀ s, p.Maintains (inside dir) ((Live.bench c scenarios pins dir k).measure s)

variable {p : Protocol S} {c : Config} {outside : S → Prop} {inside : Text → S → Prop}
  (h : p.Hosts c outside inside)

include h

theorem Hosts.withBench {α : Type} (scenarios : List Scenario) (pins : CoreChoice)
    {body : RoundProducer Dialogue → Dialogue α}
    (hbody : ∀ dir source, (∀ index target, p.Maintains (inside dir) (source index target)) →
      p.Maintains (inside dir) (body source)) :
  p.Maintains outside (Live.withBench c scenarios pins body)
  := by
  apply maintains_withTempDirectory h.quiet h.makeDirectory _ h.removeTree
  intro dir
  apply maintains_guarding (h.keepsTo dir).quiet (h.copyFile dir) (h.remove dir)
  intro k hk
  apply hbody dir
  intro index target
  apply maintains_measureRound (h.keepsTo dir) (Live.bench c scenarios pins dir k)
  · apply h.measure scenarios pins dir k hk
  · intro _
    trivial

/-- A gate under the lock leaves the outside so. -/
theorem Hosts.gateUnderLock :
  p.Maintains outside (Live.gateUnderLock c)
  := by
  apply (h.quiet (.say _) rfl).bind
  intro _
  apply (maintains_requirePrograms h.quiet c).bind
  intro _
  apply (maintains_readBaseline h.quiet _ _).bind
  intro baseline
  apply (maintains_chooseCores h.quiet c).bind
  intro pins
  apply (maintains_captureOrigin h.quiet).bind
  intro origin
  apply h.withBench
  intro dir source hsource
  apply maintains_gateWith (h.keepsTo dir) hsource _ _ _ _ trivial trivial

/-- A recut under the lock leaves the outside so. -/
theorem Hosts.recutUnderLock (target : Text) :
  p.Maintains outside (Live.recutUnderLock c target)
  := by
  apply (h.quiet (.say _) rfl).bind
  intro _
  apply (maintains_requirePrograms h.quiet c).bind
  intro _
  apply (maintains_chooseCores h.quiet c).bind
  intro pins
  apply (maintains_captureOrigin h.quiet).bind
  intro origin
  apply h.withBench
  intro dir source hsource
  apply maintains_recutWith (h.keepsTo dir) hsource _ _ _ trivial

end Protocol

end PerfGate
