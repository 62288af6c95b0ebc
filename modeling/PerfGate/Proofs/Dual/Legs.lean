import Mathlib.Logic.Function.Basic
import PerfGate.Dual.Legs
import PerfGate.Proofs.Machine.FileTree
import PerfGate.Proofs.Machine.Run

/-!
# The legs of a dual gate

How a run of both legs ends, from how each leg ends (`DualGate.endOf_run`).  What the unpinned leg
does shows in what is noted of it and nowhere else: the pinned leg decides alone, and only a failure
in an interrupted run is raised again (`DualGate.unpinned_never_blocks`).
-/

namespace PerfGate

theorem DualConfig.pinnedLeg_ne_unpinnedLeg (d : DualConfig) :
  d.pinnedLeg ≠ d.unpinnedLeg
  := by
  intro h
  cases congrArg Config.autoPinCores h

namespace DualGate

/-! ### The parts of a run -/

/-- The line in front of the pinned leg. -/
def pinnedStart : Text := "[dual-gate] pinned hard gate start\n".toList

/-- The line in front of the unpinned leg. -/
def unpinnedStart : Text := "[dual-gate] unpinned observe gate start (non-blocking)\n".toList

/-- The part of a run behind the pinned leg: the unpinned leg, unless it is left out. -/
def observeUnlessSkipped (runner : Config → MachineRun Outcome) (d : DualConfig) :
    MachineRun Observation :=
  if d.skipUnpinned then pure .skipped else observe runner d

/-- The part of a run behind both legs: the summary. -/
def conclude (d : DualConfig) (origin : RunMeta) (pinned : Outcome) (unpinned : Observation) :
    MachineRun DualResult := do
  let text := summary d pinned.verdict.pass unpinned origin
  if !(← writeFile (summaryFile d) text) then fail (HostError.fileNotWritten (summaryFile d))
  say (Text.untilNul text)
  pure { pinned, unpinned, summaryFile := summaryFile d }

theorem run_eq (runner : Config → MachineRun Outcome) (d : DualConfig) (origin : RunMeta) :
  run runner d origin =
    withLock d.base.lockFile (do
      say pinnedStart
      let pinned ← runLeg runner d.pinnedLeg pinnedName
      let unpinned ← observeUnlessSkipped runner d
      conclude d origin pinned unpinned)
  := by
  unfold run observeUnlessSkipped
  cases d.skipUnpinned <;> rfl

/-- A leg that returns is done once its report was copied. -/
theorem endOf_runLeg (runner : Config → MachineRun Outcome) (c : Config) (leg : Text)
    (m : Machine) :
  endOf (runLeg runner c leg) m =
    match endOf (runner c) m with
    | (.error e, m') => (.error e, m')
    | (.ok o, m') =>
      let target := legReport c.outDir c.reportStem leg
      match m'.files.copy m'.directory o.report.latest target with
      | .ok files => (.ok o, { m' with files })
      | .error e => (.error (.gate (HostError.reportNotPreserved leg target e)), m')
  := by
  unfold runLeg
  rw [endOf_bind]
  cases endOf (runner c) m with
  | mk result m' =>
    cases result with
    | error e => rfl
    | ok o =>
      dsimp only
      unfold keepReport
      rw [endOf_bind, endOf_bind, endOf_copyFile]
      cases m'.files.copy m'.directory o.report.latest (legReport c.outDir c.reportStem leg) <;> rfl

/-- How the unpinned leg ends that starts on a machine, if it is not left out, and the machine
behind it. -/
def unpinnedEnd (runner : Config → MachineRun Outcome) (d : DualConfig) (m : Machine) :
    Option (Except Failure Outcome) × Machine :=
  if d.skipUnpinned then (none, m)
  else
    let (ending, m') := endOf (runLeg runner d.unpinnedLeg unpinnedName) (m.print unpinnedStart)
    (some ending, m')

/-- What is noted of the end of the unpinned leg. -/
def noted : Option (Except Failure Outcome) → Observation
  | none => .skipped
  | some (.ok o) => if o.verdict.pass then .passed else .failed
  | some (.error e) => .aborted e.message

theorem observe_eq (runner : Config → MachineRun Outcome) (d : DualConfig) :
  observe runner d =
    (do
      say unpinnedStart
      tryCatch
        (do
          let o ← runLeg runner d.unpinnedLeg unpinnedName
          pure (noted (some (.ok o))))
        (fun e => do
          if ← interrupted then throw e
          warn (abortWarning e)
          pure (noted (some (.error e)))))
  := rfl

/-- The machine behind the note of how the unpinned leg ended. -/
def behindNote (ending : Option (Except Failure Outcome)) (m : Machine) : Machine :=
  match ending with
  | some (.error e) => m.complain (abortWarning e)
  | _ => m

section

variable {runner : Config → MachineRun Outcome} {d : DualConfig} {m m' : Machine}

/-- The end of the unpinned leg is noted, unless it is a failure of an interrupted run. -/
theorem endOf_observeUnlessSkipped {ending : Option (Except Failure Outcome)}
    (h : unpinnedEnd runner d m = (ending, m')) :
  endOf (observeUnlessSkipped runner d) m =
    match ending, m'.interrupted with
    | some (.error e), true => (.error e, m')
    | _, _ => (.ok (noted ending), behindNote ending m')
  := by
  unfold unpinnedEnd at h
  unfold observeUnlessSkipped
  by_cases hskip : d.skipUnpinned = true
  · rw [if_pos hskip] at h
    obtain ⟨rfl, rfl⟩ := Prod.mk.inj h
    rw [if_pos hskip]
    rfl
  · rw [if_neg hskip] at h
    cases hleg : endOf (runLeg runner d.unpinnedLeg unpinnedName) (m.print unpinnedStart) with
    | mk result m₂ =>
      rw [hleg] at h
      obtain ⟨rfl, rfl⟩ := Prod.mk.inj h
      rw [if_neg hskip, observe_eq, endOf_bind_of_ok (endOf_say _ _), endOf_tryCatch]
      cases result with
      | ok o =>
        rw [endOf_bind_of_ok hleg]
        rfl
      | error e =>
        rw [endOf_bind_of_error hleg]
        dsimp only
        rw [endOf_bind_of_ok (endOf_interrupted _)]
        cases m₂.interrupted with
        | true => rfl
        | false =>
          show endOf (warn (abortWarning e) >>= fun _ => pure _) m₂ = _
          rw [endOf_bind_of_ok (endOf_warn _ _)]
          rfl

end

/-- The summary is written if its file can be. -/
theorem endOf_conclude (d : DualConfig) (origin : RunMeta) (pinned : Outcome)
    (unpinned : Observation) (m : Machine) :
  endOf (conclude d origin pinned unpinned) m =
    match m.files.write m.directory (summaryFile d)
      (summary d pinned.verdict.pass unpinned origin) with
    | .ok files =>
      (.ok { pinned, unpinned, summaryFile := summaryFile d },
        ({ m with files } : Machine).print
          (Text.untilNul (summary d pinned.verdict.pass unpinned origin)))
    | .error _ => (.error (.gate (HostError.fileNotWritten (summaryFile d))), m)
  := by
  unfold conclude
  dsimp only
  rw [endOf_bind, endOf_writeFile]
  cases m.files.write m.directory (summaryFile d)
    (summary d pinned.verdict.pass unpinned origin) <;> rfl

/-- A run under the lock goes on behind the pinned leg, or ends with its failure. -/
theorem endOf_run (runner : Config → MachineRun Outcome) (d : DualConfig) (origin : RunMeta)
    {m m₀ : Machine} {lock : Nat}
    (hlock : (Machine.lockFile d.base.lockFile).run m = (.ok lock, m₀)) :
  endOf (run runner d origin) m =
    match endOf (runLeg runner d.pinnedLeg pinnedName) (m₀.print pinnedStart) with
    | (.error e, m₁) => (.error e, m₁.release lock)
    | (.ok pinned, m₁) =>
      let rest := endOf (observeUnlessSkipped runner d >>= conclude d origin pinned) m₁
      (rest.1, rest.2.release lock)
  := by
  rw [run_eq, endOf_withLock, hlock]
  dsimp only
  rw [endOf_bind_of_ok (endOf_say _ _), endOf_bind]
  cases endOf (runLeg runner d.pinnedLeg pinnedName) (m₀.print pinnedStart) with
  | mk result m₁ => cases result <;> rfl

theorem behindNote_files (ending : Option (Except Failure Outcome)) (m : Machine) :
  (behindNote ending m).files = m.files ∧ (behindNote ending m).directory = m.directory
  := by
  rcases ending with _ | ⟨e | o⟩ <;> exact ⟨rfl, rfl⟩

/-- What is behind the pinned leg returns only if the end of the unpinned leg was noted and the
summary was written. -/
theorem exists_of_endOf_rest {runner : Config → MachineRun Outcome} {d : DualConfig}
    {origin : RunMeta} {pinned : Outcome} {m m' : Machine} {r : DualResult}
    (h : endOf (observeUnlessSkipped runner d >>= conclude d origin pinned) m = (.ok r, m')) :
  ∃ ending m₁, unpinnedEnd runner d m = (ending, m₁) ∧ r.pinned = pinned
    ∧ r.unpinned = noted ending ∧ m'.directory = m₁.directory
    ∧ m₁.files.write m₁.directory (summaryFile d)
      (summary d r.pinned.verdict.pass r.unpinned origin) = .ok m'.files
  := by
  obtain ⟨unpinned, m₂, hobserve, hconclude⟩ := exists_of_endOf_bind h
  cases hunpinned : unpinnedEnd runner d m with
  | mk ending m₁ =>
    have hnoted := (endOf_observeUnlessSkipped hunpinned).symm.trans hobserve
    have hbehind : noted ending = unpinned ∧ behindNote ending m₁ = m₂ := by
      split at hnoted
      · cases (Prod.mk.inj hnoted).1
      · obtain ⟨hok, hmachine⟩ := Prod.mk.inj hnoted
        use Except.ok.inj hok
    obtain ⟨rfl, rfl⟩ := hbehind
    obtain ⟨hfiles, hdirectory⟩ := behindNote_files ending m₁
    rw [endOf_conclude] at hconclude
    split at hconclude
    · rename_i files hwrite
      rw [hfiles, hdirectory] at hwrite
      obtain ⟨hr, rfl⟩ := Prod.mk.inj hconclude
      obtain rfl := Except.ok.inj hr
      use ending, m₁, rfl, rfl, rfl, hdirectory, hwrite
    · cases (Prod.mk.inj hconclude).1

/-- A run that returns took the lock, and both legs and the summary came to their ends. -/
theorem exists_of_endOf_run {runner : Config → MachineRun Outcome} {d : DualConfig}
    {origin : RunMeta} {m m' : Machine} {r : DualResult}
    (h : endOf (run runner d origin) m = (.ok r, m')) :
  ∃ lock m₀ m₁ ending m₂, (Machine.lockFile d.base.lockFile).run m = (.ok lock, m₀)
    ∧ endOf (runLeg runner d.pinnedLeg pinnedName) (m₀.print pinnedStart) = (.ok r.pinned, m₁)
    ∧ unpinnedEnd runner d m₁ = (ending, m₂) ∧ r.unpinned = noted ending
    ∧ m'.directory = m₂.directory
    ∧ m₂.files.write m₂.directory (summaryFile d)
      (summary d r.pinned.verdict.pass r.unpinned origin) = .ok m'.files
  := by
  cases hlock : (Machine.lockFile d.base.lockFile).run m with
  | mk taken m₀ =>
    cases taken with
    | error e =>
      rw [run_eq, endOf_withLock, hlock] at h
      cases (Prod.mk.inj h).1
    | ok lock =>
      rw [endOf_run runner d origin hlock] at h
      cases hpinned : endOf (runLeg runner d.pinnedLeg pinnedName) (m₀.print pinnedStart) with
      | mk result m₁ =>
        rw [hpinned] at h
        cases result with
        | error e => cases (Prod.mk.inj h).1
        | ok pinned =>
          obtain ⟨hr, rfl⟩ := Prod.mk.inj h
          obtain ⟨ending, m₂, hunpinned, rfl, hnoted, hdirectory, hwrite⟩ :=
            exists_of_endOf_rest (Prod.ext hr rfl)
          use lock, m₀, m₁, ending, m₂, rfl, hpinned, hunpinned, hnoted, hdirectory, hwrite

/-! ### What the legs decide -/

/-- The unpinned leg never blocks.  A failure of the pinned leg ends the run at once: whatever the
runner would do in the unpinned leg, the machine is as the pinned leg left it, the lock given
back.  If the pinned leg returns, its verdict alone decides the exit code, and the end of the
unpinned leg is noted; only a failure of it in an interrupted run is raised again. -/
theorem unpinned_never_blocks (runner : Config → MachineRun Outcome) (d : DualConfig)
    (origin : RunMeta) {m m₀ : Machine} {lock : Nat}
    (hlock : (Machine.lockFile d.base.lockFile).run m = (.ok lock, m₀)) :
  (∀ e m₁, endOf (runLeg runner d.pinnedLeg pinnedName) (m₀.print pinnedStart) = (.error e, m₁) →
    ∀ other, endOf (run (Function.update runner d.unpinnedLeg other) d origin) m =
      (.error e, m₁.release lock))
    ∧ ∀ pinned m₁,
      endOf (runLeg runner d.pinnedLeg pinnedName) (m₀.print pinnedStart) = (.ok pinned, m₁) →
      ∀ ending m₂, unpinnedEnd runner d m₁ = (ending, m₂) →
        (∀ e, ending = some (.error e) → m₂.interrupted = true →
          endOf (run runner d origin) m = (.error e, m₂.release lock))
        ∧ ((∀ e, ending = some (.error e) → m₂.interrupted = false) →
          (m₂.files.openFile m₂.directory (summaryFile d)).isOk = true →
          ∃ r m', endOf (run runner d origin) m = (.ok r, m') ∧ r.pinned = pinned
            ∧ r.unpinned = noted ending ∧ r.exitCode = if pinned.verdict.pass then 0 else 1)
  := by
  constructor
  · intro e m₁ hpinned other
    have hleg : runLeg (Function.update runner d.unpinnedLeg other) d.pinnedLeg pinnedName =
        runLeg runner d.pinnedLeg pinnedName := by
      rw [runLeg, runLeg, Function.update_of_ne d.pinnedLeg_ne_unpinnedLeg]
    rw [endOf_run _ d origin hlock, hleg, hpinned]
  · intro pinned m₁ hpinned ending m₂ hunpinned
    have hrun := endOf_run runner d origin hlock
    rw [hpinned] at hrun
    dsimp only at hrun
    have hobserve := endOf_observeUnlessSkipped hunpinned
    constructor
    · rintro e rfl hinterrupted
      rw [hinterrupted] at hobserve
      rw [hrun, endOf_bind_of_error hobserve]
    · intro hcalm hopen
      have hnoted : endOf (observeUnlessSkipped runner d) m₁ =
          (.ok (noted ending), behindNote ending m₂) := by
        rw [hobserve]
        rcases ending with _ | ⟨e | o⟩
        · rfl
        · rw [hcalm e rfl]
        · rfl
      obtain ⟨hfiles, hdirectory⟩ := behindNote_files ending m₂
      obtain ⟨files, hwrite⟩ := FileTree.exists_write_of_openFile hopen
        (summary d pinned.verdict.pass (noted ending) origin)
      rw [← hfiles, ← hdirectory] at hwrite
      rw [hrun, endOf_bind_of_ok hnoted, endOf_conclude, hwrite]
      exact ⟨_, _, rfl, rfl, rfl, rfl⟩

/-- A runner that writes a report in each leg with a decision, and ends the others with an
error. -/
def scripted (pinned unpinned : Except Failure Bool) (c : Config) : MachineRun Outcome :=
  match if c.autoPinCores then pinned else unpinned with
  | .error e => throw e
  | .ok pass => do
    let words := if c.autoPinCores then "# pinned\n".toList else "# unpinned\n".toList
    let report ← writeReport words c.outDir c.reportStem "20260102_030405".toList
    pure {
      verdict :=
        { scenarios := [], plannedRounds := 1, roundsExecuted := 1, passesNeeded := 1, pass }
      report }

/-- Settings with short names of files. -/
def small : DualConfig where
  base := { outDir := "perf".toList, reportStem := "gate".toList, lockFile := "lock".toList }

/-- A machine with an empty directory. -/
def bench : Machine where
  files := {}
  directory := []

/-- Where the runs on it come from. -/
def benchOrigin : RunMeta where
  date := "2026-01-02 03:04:05 UTC".toList
  fileStamp := "20260102_030405".toList
  hostname := "bench".toList
  revision := "abc123".toList

/-- A crash of the unpinned leg is noted, and the failed pinned gate decides. -/
theorem unpinned_never_blocks_crash :
  ∃ r m', endOf (run (scripted (.ok false) (.error (.crash "thread".toList))) small benchOrigin)
      bench = (.ok r, m')
    ∧ r.unpinned = .aborted "thread".toList ∧ r.exitCode = 1
  := by
  have hlock : (Machine.lockFile small.base.lockFile).run bench = (.ok 1001, _) := rfl
  have hlegs := (unpinned_never_blocks (scripted (.ok false) (.error (.crash "thread".toList)))
    small benchOrigin hlock).2 _ _ rfl _ _ rfl
  obtain ⟨r, m', hrun, -, hunpinned, hcode⟩ := hlegs.2 (fun _ _ => rfl) rfl
  use r, m', hrun, hunpinned
  rw [hcode]
  rfl

end DualGate

end PerfGate
