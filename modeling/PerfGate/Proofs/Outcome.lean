import PerfGate.Outcome
import PerfGate.Proofs.Recut

/-!
# What a gate leaves on its disk

A gate touches no file before it has decided.  If it returns, its report is in both places and
nothing else was changed.  If it fails, nothing was changed at all, but for one case: the
timestamped report could be written and the latest one could not, and then the first of them
stays behind (`gateWith_disk`).
-/

namespace PerfGate

namespace Trial

/-! ### Runs that leave the disk alone -/

section

variable {α β : Type} {t : Trial} {x : TrialRun α} {f : α → TrialRun β} {disk : Disk}

/-- Whether a run leaves the disk as it is, however it ends. -/
def Spares (disk : Disk) (x : TrialRun α) : Prop :=
  ∀ t : Trial, t.disk = disk → t.Ends x (fun _ t' => t'.disk = disk) (fun _ t' => t'.disk = disk)

theorem spares_pure (a : α) :
  Spares disk (pure a)
  := fun _ ht => ends_pure ht

theorem Spares.bind (hx : Spares disk x) (hf : ∀ a, Spares disk (f a)) :
  Spares disk (x >>= f)
  := by
  intro t ht
  apply (hx t ht).bind
  intro a t' ht'
  apply hf a t' ht'

theorem spares_say (words : Text) :
  Spares disk (say words)
  := fun _ ht => ht

theorem spares_ofExcept {ε : Type} (wrap : ε → RunError) (r : Except ε α) :
  Spares disk (ofExcept wrap r)
  := by
  intro t ht
  apply ends_ofExcept
  · intro a _
    apply ht
  · intro e _
    apply ht

theorem spares_source (answer : Behaviour) (index target : Int) :
  Spares disk (source answer index target)
  := by
  intro t ht
  apply ends_source
  · intro round _
    apply ht
  · intro e _
    apply ht

variable {run : Int → Int → History Binary64 → TrialRun (History Binary64)}

theorem spares_runPlanned (hrun : ∀ index target h, Spares disk (run index target h))
    (target : Int) (n : Nat) (done : Int) (h : History Binary64) :
  Spares disk (runPlanned run target n done h)
  := by
  induction n generalizing done h with
  | zero => apply spares_pure
  | succ n ih =>
    apply (hrun _ _ _).bind
    intro h'
    apply ih

theorem spares_runExtra (hrun : ∀ index target h, Spares disk (run index target h))
    (p : Policy Binary64) (left : Nat) (done : Int) (h : History Binary64) :
  Spares disk (runExtra run p left done h)
  := by
  induction left generalizing done h with
  | zero => apply spares_pure
  | succ left ih =>
    rw [runExtra]
    split
    · apply (spares_say _).bind
      intro _
      apply (hrun _ _ _).bind
      intro h'
      apply ih
    · apply spares_pure

end

/-- The rounds of a gate and its decision leave the disk alone. -/
theorem spares_judgeRounds (answer : Behaviour) (scenarios : List ScenarioName)
    (b : Baseline Binary64) (p : Policy Binary64) (disk : Disk) :
  Spares disk (judgeRounds (source answer) scenarios b p)
  := by
  have hround : ∀ index target h, Spares disk (gateRound (source answer) b p index target h) := by
    intro index target h
    unfold gateRound announceRound
    apply ((spares_say _).bind fun _ => spares_source answer index target).bind
    intro round
    apply (spares_ofExcept _ _).bind
    intro h'
    apply spares_ofExcept
  unfold judgeRounds
  apply (spares_ofExcept _ _).bind
  intro _
  apply (spares_runPlanned hround _ _ _ _).bind
  intro h
  dsimp only
  split
  · apply spares_ofExcept
  · apply (spares_runExtra hround _ _ _ _).bind
    intro h'
    apply spares_ofExcept

/-! ### The report -/

variable {c : Config} {scenarios : List ScenarioName} {b : Baseline Binary64} {run : RunMeta}

/-- What a disk holds behind a gate that returned: its report in both places, and apart from
these what it held. -/
structure Reported (disk disk' : Disk) (paths : ReportFiles) (report : Text) : Prop where
  /-- The report with the date. -/
  timestamped : disk'.content paths.timestamped = some report
  /-- The latest report. -/
  latest : disk'.content paths.latest = some report
  /-- Every other file is as it was. -/
  others : ∀ path, path ≠ paths.timestamped → path ≠ paths.latest →
    disk'.content path = disk.content path

/-- What a disk holds behind a gate that wrote the timestamped report and then failed, since the
latest one could not be written. -/
structure HalfReported (disk disk' : Disk) (paths : ReportFiles) (report : Text) (e : Failure) :
    Prop where
  /-- The error names the latest report. -/
  error_eq : e = .gate (HostError.reportNotWritten paths.latest)
  /-- The timestamped report could be written. -/
  timestamped_open : disk.sealed paths.timestamped = false
  /-- The latest one could not. -/
  latest_sealed : disk.sealed paths.latest = true
  /-- The timestamped report is all that was changed. -/
  disk_eq : disk' = disk.put paths.timestamped (some report)

/-- A report is written to both places, or to none, or to the first one only. -/
theorem ends_writeReport (t : Trial) (report outDir stem stamp : Text) :
  t.Ends (writeReport report outDir stem stamp)
    (fun paths t' => paths = ReportFiles.of outDir stem stamp
      ∧ Reported t.disk t'.disk paths report)
    (fun e t' => t'.disk = t.disk
      ∨ HalfReported t.disk t'.disk (ReportFiles.of outDir stem stamp) report e)
  := by
  unfold writeReport
  apply ends_createDirectories_bind
  cases t.disk.refusal outDir with
  | some e =>
    apply ends_fail
    left
    rfl
  | none =>
    dsimp only
    generalize ReportFiles.of outDir stem stamp = paths
    apply ends_writeFile_bind
    · intro htimestamped
      apply ends_writeFile_bind
      · intro hlatest
        apply ends_pure
        use rfl
        constructor
        · by_cases hsame : paths.timestamped = paths.latest
          · rw [hsame]
            apply content_put
          · rw [content_put_of_ne hsame]
            apply content_put
        · apply content_put
        · intro path hpath hpath'
          rw [content_put_of_ne hpath', content_put_of_ne hpath]
      · intro hlatest
        apply ends_fail
        right
        exact ⟨rfl, htimestamped, hlatest, rfl⟩
    · intro _
      apply ends_fail
      left
      rfl

/-- A gate leaves its report in both places and nothing else, or it leaves nothing, or the first
report where the second could not be written. -/
theorem gateWith_disk (answer : Behaviour) (c : Config) (scenarios : List ScenarioName)
    (b : Baseline Binary64) (run : RunMeta) (t : Trial) :
  t.Ends (gateWith (source answer) c scenarios b run)
    (fun o t' => o.report = ReportFiles.of c.outDir c.reportStem run.fileStamp
      ∧ Reported t.disk t'.disk o.report (Report.render o.verdict c run))
    (fun e t' => t'.disk = t.disk
      ∨ ∃ verdict, HalfReported t.disk t'.disk
        (ReportFiles.of c.outDir c.reportStem run.fileStamp) (Report.render verdict c run) e)
  := by
  unfold gateWith
  apply ((spares_judgeRounds answer scenarios b c.policy t.disk t rfl).mono
    (fun _ _ ht => ht) (fun _ _ ht => .inl ht)).bind
  intro v t₁ ht₁
  have hreport := ends_writeReport t₁ (Report.render v c run) c.outDir c.reportStem run.fileStamp
  rw [ht₁] at hreport
  apply (hreport.mono (fun _ _ h => h) fun _ _ h => h.imp_right fun hhalf => ⟨v, hhalf⟩).bind
  rintro paths t₂ ⟨rfl, ht₂⟩
  apply ends_say_bind
  apply ends_say_bind
  apply ends_pure
  use rfl
  apply ht₂

/-- The places of the report of a first run. -/
def firstReport : ReportFiles :=
  ReportFiles.of singleRound.outDir singleRound.reportStem firstRun.fileStamp

/-- A disk on which a directory, say, takes the place of the latest report. -/
def withoutLatest : Disk where
  sealed path := path == firstReport.latest

/-- How a gate with one good round ends on that disk. -/
def endWithoutLatest : Except Failure Outcome × Trial :=
  perform (gateWith (source fun _ => .ok (idleRound 1000)) singleRound ["idle".toList]
    [("idle".toList, .ofMetrics (idleMetrics 1000))] firstRun) { disk := withoutLatest }

/-- The gate ends with an error, and leaves a report behind that was not there. -/
theorem report_of_failed_gate :
  endWithoutLatest.1 = .error (.gate (HostError.reportNotWritten firstReport.latest))
    ∧ withoutLatest.content firstReport.timestamped = none
    ∧ (endWithoutLatest.2.disk.content firstReport.timestamped).isSome = true
  := by
  decide +kernel

end Trial

end PerfGate
