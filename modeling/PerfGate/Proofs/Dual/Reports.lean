import PerfGate.Proofs.Dual.Legs
import PerfGate.Proofs.Dual.Summary
import PerfGate.Proofs.Machine.Writing
import PerfGate.Proofs.Path

/-!
# The reports of a dual gate

Both legs write to the same two places, and each report is copied to a name of its leg before the
next leg runs.  The names differ in what follows the common stem, and a place has one last name;
so nothing that is written later replaces a report that was preserved (`reports_survive`).  The
file of the summary gives the report of the unpinned leg as its output exactly if it was preserved
in the same run.
-/

namespace PerfGate

/-! ### Names of reports -/

/-- The last name of a place that a path leads to is that of the path. -/
theorem FileTree.getLast?_of_place {t : FileTree} {cwd p : Place} {b s : Text} (hb : '\x00' ∉ b)
    (hs : IsEnding s) (h : t.place cwd (b ++ s) = .ok p) :
  p.getLast? = some (Path.fileName b ++ s)
  := by
  have hlength : 2 < (Path.fileName b ++ s).length := by
    rw [List.length_append]
    have := hs.length
    omega
  have hnul : Text.untilNul (b ++ s) = b ++ s := by
    apply List.takeWhile_eq_self_iff.2
    intro a ha
    rw [bne_iff_ne]
    rintro rfl
    rcases List.mem_append.1 ha with ha | ha
    · exact hb ha
    · exact hs.nul_notMem ha
  have hne : s ≠ [] := by
    rintro rfl
    cases hs.length
  obtain ⟨front, hnames⟩ := Path.exists_names_append b
  unfold place at h
  dsimp only at h
  rw [hnul, hnames s hs.slash_notMem hne] at h
  split at h
  · cases h
  · apply getLast?_of_follow h
    · intro hdot
      rw [hdot] at hlength
      contradiction
    · intro hdots
      rw [hdots] at hlength
      contradiction

/-- Whether a text is the stamp of a report: eight digits, an underscore and six digits. -/
def IsStamp (t : Text) : Prop :=
  ∃ date time : Text, t = date ++ '_' :: time ∧ date.length = 8 ∧ time.length = 6
    ∧ ∀ a ∈ date ++ time, Text.isDigit a = true

/-- What follows the stem in the name of a report with a stamp. -/
def stampedEnding (stamp : Text) : Text := '_' :: stamp ++ ".md".toList

/-- What follows the stem in the name of the latest report. -/
def latestEnding : Text := "_latest.md".toList

/-- What follows the stem in the name of the report of a leg. -/
def legEnding (leg : Text) : Text := '_' :: leg ++ "_latest.md".toList

theorem IsStamp.notMem {stamp : Text} (h : IsStamp stamp) {a : Char} (ha : a ≠ '_')
    (hdigit : Text.isDigit a = false) :
  a ∉ stamp
  := by
  obtain ⟨date, time, rfl, -, -, hdigits⟩ := h
  intro hmem
  rw [List.mem_append, List.mem_cons] at hmem
  have hall : a ∈ date ++ time := by
    rw [List.mem_append]
    tauto
  rw [hdigits a hall] at hdigit
  cases hdigit

theorem IsStamp.isEnding {stamp : Text} (h : IsStamp stamp) :
  IsEnding (stampedEnding stamp)
  := by
  have hslash := h.notMem (a := '/') (by decide) (by decide)
  have hnul := h.notMem (a := '\x00') (by decide) (by decide)
  constructor
  · simp [stampedEnding, hslash]
  · simp [stampedEnding, hnul]
  · simp [stampedEnding]

/-- No stamp begins with a letter, so a report with a stamp is not that of a leg. -/
theorem IsStamp.ending_ne {stamp : Text} (h : IsStamp stamp) {leg : Text} {a : Char}
    (hleg : leg.head? = some a) (ha : Text.isDigit a = false) :
  stampedEnding stamp ≠ legEnding leg
  := by
  obtain ⟨date, time, rfl, hdate, -, hdigits⟩ := h
  obtain ⟨b, date, rfl⟩ := List.exists_cons_of_length_pos (by omega : 0 < date.length)
  obtain ⟨leg, rfl⟩ := List.head?_eq_some_iff.1 hleg
  intro heq
  have hab : b = a := by
    simp only [stampedEnding, legEnding, List.cons_append, List.cons.injEq] at heq
    apply heq.2.1
  rw [← hab, hdigits b (by simp)] at ha
  cases ha

/-! ### What a leg leaves behind -/

/-- The beginning of the paths of all reports of some settings. -/
def reportBase (c : Config) : Text := Path.join c.outDir c.reportStem

/-- Whether the last name of a place is that of a report which a gate with some settings writes. -/
def IsOwnName (c : Config) (p : Place) : Prop :=
  p.getLast? = some (Path.fileName (reportBase c) ++ latestEnding)
    ∨ ∃ stamp, IsStamp stamp
      ∧ p.getLast? = some (Path.fileName (reportBase c) ++ stampedEnding stamp)

/-- Whether a path is that of a report which a gate with some settings writes: the latest one, or
one with a stamp. -/
def IsReportPath (c : Config) (path : Text) : Prop :=
  ∃ stamp, IsStamp stamp ∧ (path = (ReportFiles.of c.outDir c.reportStem stamp).latest
    ∨ path = (ReportFiles.of c.outDir c.reportStem stamp).timestamped)

/-- Writing a report writes its two files only. -/
theorem writes_writeReport (report : Text) (c : Config) {stamp : Text} (h : IsStamp stamp) :
  Writes (IsReportPath c) (writeReport report c.outDir c.reportStem stamp)
  := by
  have htimestamped : IsReportPath c (ReportFiles.of c.outDir c.reportStem stamp).timestamped :=
    ⟨stamp, h, .inr rfl⟩
  have hlatest : IsReportPath c (ReportFiles.of c.outDir c.reportStem stamp).latest :=
    ⟨stamp, h, .inl rfl⟩
  unfold writeReport
  apply Writes.bind (writes_createDirectories _)
  rintro (_ | e)
  · apply Writes.bind (writes_writeFile htimestamped _)
    rintro (_ | _)
    · apply writes_fail_bind
    · apply Writes.bind (writes_writeFile hlatest _)
      rintro (_ | _)
      · apply writes_fail_bind
      · apply writes_pure
  · apply writes_fail_bind

/-- Whether the settings can name files: they hold no NUL. -/
structure NamesFiles (c : Config) : Prop where
  /-- The directory of the reports holds none. -/
  outDir : '\x00' ∉ c.outDir
  /-- The stem of their names holds none. -/
  reportStem : '\x00' ∉ c.reportStem

section

variable {c : Config}

theorem NamesFiles.nul_notMem (h : NamesFiles c) :
  '\x00' ∉ reportBase c
  := by
  intro hmem
  rcases Path.mem_join hmem with hdir | hstem | hslash
  · exact h.outDir hdir
  · exact h.reportStem hstem
  · revert hslash
    decide

theorem legReport_eq (leg : Text) :
  DualGate.legReport c.outDir c.reportStem leg = reportBase c ++ legEnding leg
  := by
  unfold DualGate.legReport reportBase legEnding
  rw [List.append_assoc, Path.join_append]
  simp

theorem latest_eq (stamp : Text) :
  (ReportFiles.of c.outDir c.reportStem stamp).latest = reportBase c ++ latestEnding
  := by
  unfold ReportFiles.of reportBase latestEnding
  apply Path.join_append
  simp

theorem timestamped_eq (stamp : Text) :
  (ReportFiles.of c.outDir c.reportStem stamp).timestamped =
    reportBase c ++ stampedEnding stamp
  := by
  unfold ReportFiles.of reportBase stampedEnding
  dsimp only
  rw [List.append_assoc, Path.join_append]
  simp

theorem IsEnding.latest : IsEnding latestEnding := by
  constructor <;> decide

theorem IsEnding.pinned : IsEnding (legEnding DualGate.pinnedName) := by
  constructor <;> decide

theorem IsEnding.unpinned : IsEnding (legEnding DualGate.unpinnedName) := by
  constructor <;> decide

/-- Whether the last name of a place is that of the report of a leg. -/
def IsLegName (c : Config) (leg : Text) (p : Place) : Prop :=
  p.getLast? = some (Path.fileName (reportBase c) ++ legEnding leg)

/-- The report of a leg is none that the gate writes itself. -/
theorem IsLegName.not_isOwnName {leg : Text} {p : Place} (hp : IsLegName c leg p) {a : Char}
    (hleg : leg.head? = some a) (ha : Text.isDigit a = false) :
  ¬ IsOwnName c p
  := by
  unfold IsLegName at hp
  rintro (hlatest | ⟨stamp, hstamp, hstamped⟩)
  · rw [hp, Option.some_inj] at hlatest
    have hlength := congrArg List.length (List.append_cancel_left hlatest)
    have hne : leg ≠ [] := by
      rintro rfl
      cases hleg
    unfold legEnding latestEnding at hlength
    rw [List.length_append, List.length_cons] at hlength
    have hpos := List.length_pos_iff.2 hne
    omega
  · rw [hp, Option.some_inj] at hstamped
    apply hstamp.ending_ne hleg ha (List.append_cancel_left hstamped).symm

variable {runner : Config → MachineRun Outcome} {m m' : Machine} {leg : Text} {o : Outcome}

/-- A runner that writes its own reports only changes places with their names only. -/
theorem changes_of_writes (h : Writes (IsReportPath c) (runner c)) (hc : NamesFiles c)
    {ending : Except Failure Outcome} (hend : endOf (runner c) m = (ending, m')) :
  m'.directory = m.directory ∧ FileTree.Changes (IsOwnName c) m.files m'.files
  := by
  have hwrites := h m
  rw [hend] at hwrites
  use hwrites.directory
  apply hwrites.changes.mono
  rintro p ⟨path, ⟨stamp, hstamp, rfl | rfl⟩, hplace⟩
  · left
    rw [latest_eq] at hplace
    apply FileTree.getLast?_of_place hc.nul_notMem IsEnding.latest hplace
  · right
    rw [timestamped_eq] at hplace
    use stamp, hstamp
    apply FileTree.getLast?_of_place hc.nul_notMem hstamp.isEnding hplace

/-- A leg that returns leaves its report at the name of the leg. -/
theorem exists_of_runLeg_ok (h : Writes (IsReportPath c) (runner c)) (hc : NamesFiles c)
    (hleg : IsEnding (legEnding leg))
    (hend : endOf (DualGate.runLeg runner c leg) m = (.ok o, m')) :
  m'.directory = m.directory
    ∧ FileTree.Changes (fun p => IsOwnName c p ∨ IsLegName c leg p) m.files m'.files
    ∧ ∃ mᵣ content p, endOf (runner c) m = (.ok o, mᵣ)
      ∧ mᵣ.files.content? mᵣ.directory o.report.latest = .ok content ∧ IsLegName c leg p
      ∧ m'.Holds (DualGate.legReport c.outDir c.reportStem leg) p content
  := by
  rw [DualGate.endOf_runLeg] at hend
  cases hrunner : endOf (runner c) m with
  | mk result mᵣ =>
    rw [hrunner] at hend
    cases result with
    | error e => cases (Prod.mk.inj hend).1
    | ok o' =>
      dsimp only at hend
      split at hend
      · rename_i files hcopy
        obtain ⟨ho, rfl⟩ := Prod.mk.inj hend
        obtain rfl := Except.ok.inj ho
        obtain ⟨hdirectory, hchanges⟩ := changes_of_writes h hc hrunner
        obtain ⟨p, content, mode, hcontent, hplace, hslash, -, hat⟩ := FileTree.copy_eq_ok hcopy
        have hname : ∀ q, mᵣ.files.place mᵣ.directory
            (DualGate.legReport c.outDir c.reportStem leg) = .ok q → IsLegName c leg q := by
          intro q hq
          rw [legReport_eq] at hq
          apply FileTree.getLast?_of_place hc.nul_notMem hleg hq
        have hcopied := FileTree.changes_copy hcopy
        use hdirectory
        constructor
        · apply (hchanges.mono fun q hq => .inl hq).trans
          apply hcopied.mono fun q hq => .inr (hname q hq)
        · use mᵣ, content, p, rfl, hcontent, hname p hplace
          constructor
          · apply hcopied.place hplace
          · apply hslash
          · use mode
            rw [hat, if_pos rfl]
      · cases (Prod.mk.inj hend).1

/-- A leg that fails changes no report of a leg. -/
theorem changes_of_runLeg_error (h : Writes (IsReportPath c) (runner c)) (hc : NamesFiles c)
    {e : Failure} (hend : endOf (DualGate.runLeg runner c leg) m = (.error e, m')) :
  m'.directory = m.directory ∧ FileTree.Changes (IsOwnName c) m.files m'.files
  := by
  rw [DualGate.endOf_runLeg] at hend
  cases hrunner : endOf (runner c) m with
  | mk result mᵣ =>
    have hkept := changes_of_writes h hc hrunner
    rw [hrunner] at hend
    cases result with
    | error e =>
      obtain ⟨-, rfl⟩ := Prod.mk.inj hend
      apply hkept
    | ok o =>
      dsimp only at hend
      split at hend
      · cases (Prod.mk.inj hend).1
      · obtain ⟨-, rfl⟩ := Prod.mk.inj hend
        apply hkept

end

/-! ### What a run leaves behind -/

namespace DualGate

/-- The name of the summary. -/
def summaryName : Text := "zero_regression_dual_gate_latest.md".toList

/-- The directory part of the path of the summary. -/
def summaryBase (d : DualConfig) : Text := Path.join d.base.outDir []

theorem summaryFile_eq (d : DualConfig) :
  summaryFile d = summaryBase d ++ summaryName
  := by
  unfold summaryFile summaryBase summaryName
  rw [← Path.join_append, List.nil_append]
  decide

theorem isEnding_summaryName : IsEnding summaryName := by
  constructor <;> decide

/-- Whether the last name of a place is that of the summary. -/
def IsSummaryName (d : DualConfig) (p : Place) : Prop :=
  p.getLast? = some (Path.fileName (summaryBase d) ++ summaryName)

theorem not_isSummaryName_of_leg {d : DualConfig} {leg : Text} {p : Place}
    (hp : IsLegName d.base leg p) (hleg : ¬ legEnding leg <:+ summaryName)
    (hlength : (legEnding leg).length ≤ summaryName.length) :
  ¬ IsSummaryName d p
  := by
  intro hsummary
  unfold IsLegName at hp
  unfold IsSummaryName at hsummary
  rw [hp, Option.some_inj] at hsummary
  have hsuffix : legEnding leg <:+ Path.fileName (summaryBase d) ++ summaryName := by
    rw [← hsummary]
    apply List.suffix_append
  apply hleg (List.suffix_of_suffix_length_le hsuffix (List.suffix_append _ _) hlength)

/-- Whether the report that a leg left behind, run on a machine with an outcome, is what the file
with the name of the leg holds on another machine. -/
def IsPreserved (runner : Config → MachineRun Outcome) (c : Config) (leg : Text) (m : Machine)
    (o : Outcome) (m' : Machine) : Prop :=
  ∃ mᵣ content, endOf (runner c) m = (.ok o, mᵣ)
    ∧ mᵣ.files.content? mᵣ.directory o.report.latest = .ok content
    ∧ m'.files.content? m'.directory (legReport c.outDir c.reportStem leg) = .ok content

/-- Whether nothing was written where a path leads to: what is there was there, or is a
directory. -/
def IsUntouched (path : Text) (m m' : Machine) : Prop :=
  ∀ p, m'.files.place m'.directory path = .ok p →
    m'.files.at? p = m.files.at? p ∨ m'.files.at? p = some .directory

section

variable {runner : Config → MachineRun Outcome} {d : DualConfig} {m m' : Machine}

/-- The unpinned leg changes its own reports, and the one with its name if it is copied. -/
theorem unpinnedEnd_spec (h : Writes (IsReportPath d.unpinnedLeg) (runner d.unpinnedLeg))
    (hc : NamesFiles d.base) {ending : Option (Except Failure Outcome)}
    (hend : unpinnedEnd runner d m = (ending, m')) :
  m'.directory = m.directory
    ∧ match ending with
      | some (.ok o) =>
        FileTree.Changes (fun p => IsOwnName d.base p ∨ IsLegName d.base unpinnedName p)
            m.files m'.files
          ∧ ∃ mᵣ content p, endOf (runner d.unpinnedLeg) (m.print unpinnedStart) = (.ok o, mᵣ)
            ∧ mᵣ.files.content? mᵣ.directory o.report.latest = .ok content
            ∧ IsLegName d.base unpinnedName p
            ∧ m'.Holds (legReport d.base.outDir d.base.reportStem unpinnedName) p content
      | _ => FileTree.Changes (IsOwnName d.base) m.files m'.files
  := by
  have hc' : NamesFiles d.unpinnedLeg := ⟨hc.outDir, hc.reportStem⟩
  unfold unpinnedEnd at hend
  split at hend
  · obtain ⟨rfl, rfl⟩ := Prod.mk.inj hend
    use rfl
    apply FileTree.Changes.refl
  · cases hleg : endOf (runLeg runner d.unpinnedLeg unpinnedName) (m.print unpinnedStart) with
    | mk result m₁ =>
      rw [hleg] at hend
      obtain ⟨rfl, rfl⟩ := Prod.mk.inj hend
      cases result with
      | error e => apply changes_of_runLeg_error h hc' hleg
      | ok o => apply exists_of_runLeg_ok h hc' IsEnding.unpinned hleg

/-- However the unpinned leg ends, it changes no other place than those of its reports. -/
theorem changes_of_unpinnedEnd (h : Writes (IsReportPath d.unpinnedLeg) (runner d.unpinnedLeg))
    (hc : NamesFiles d.base) {ending : Option (Except Failure Outcome)}
    (hend : unpinnedEnd runner d m = (ending, m')) :
  FileTree.Changes (fun p => IsOwnName d.base p ∨ IsLegName d.base unpinnedName p)
    m.files m'.files
  := by
  obtain ⟨-, hspec⟩ := unpinnedEnd_spec h hc hend
  rcases ending with _ | ⟨e | o⟩
  · apply hspec.mono fun p hp => .inl hp
  · apply hspec.mono fun p hp => .inl hp
  · apply hspec.1

/-- Without a decision of the unpinned leg its report is not written. -/
theorem changes_of_undecided (h : Writes (IsReportPath d.unpinnedLeg) (runner d.unpinnedLeg))
    (hc : NamesFiles d.base) {ending : Option (Except Failure Outcome)}
    (hend : unpinnedEnd runner d m = (ending, m')) (hnone : ∀ o, ending ≠ some (.ok o)) :
  FileTree.Changes (IsOwnName d.base) m.files m'.files
  := by
  obtain ⟨-, hspec⟩ := unpinnedEnd_spec h hc hend
  rcases ending with _ | ⟨e | o⟩
  · apply hspec
  · apply hspec
  · cases hnone o rfl

end

theorem noted_decided_iff (ending : Option (Except Failure Outcome)) :
  noted ending = .passed ∨ noted ending = .failed ↔ ∃ o, ending = some (.ok o)
  := by
  rcases ending with _ | ⟨e | o⟩
  · simp [noted]
  · simp [noted]
  · unfold noted
    cases o.verdict.pass <;> simp

section

variable {d : DualConfig} {p : Place}

theorem not_isOwnName_of_pinned (hp : IsLegName d.base pinnedName p) :
  ¬ IsOwnName d.base p
  := hp.not_isOwnName (a := 'p') (by decide) (by decide)

theorem not_isOwnName_of_unpinned (hp : IsLegName d.base unpinnedName p) :
  ¬ IsOwnName d.base p
  := hp.not_isOwnName (a := 'u') (by decide) (by decide)

theorem not_unpinned_of_pinned (hp : IsLegName d.base pinnedName p) :
  ¬ IsLegName d.base unpinnedName p
  := by
  intro hu
  unfold IsLegName at hp hu
  rw [hp, Option.some_inj] at hu
  have hending := List.append_cancel_left hu
  revert hending
  decide

theorem not_isSummaryName_of_pinned (hp : IsLegName d.base pinnedName p) :
  ¬ IsSummaryName d p
  := not_isSummaryName_of_leg hp (by decide) (by decide)

theorem not_isSummaryName_of_unpinned (hp : IsLegName d.base unpinnedName p) :
  ¬ IsSummaryName d p
  := not_isSummaryName_of_leg hp (by decide) (by decide)

/-- The summary changes the place with its name only. -/
theorem changes_of_summary {t t' : FileTree} {cwd : Place} {text : Text} (hc : NamesFiles d.base)
    (h : t.write cwd (summaryFile d) text = .ok t') :
  FileTree.Changes (IsSummaryName d) t t'
  := by
  have hnul : '\x00' ∉ summaryBase d := by
    intro hmem
    rcases Path.mem_join hmem with hdir | hnil | hslash
    · exact hc.outDir hdir
    · cases hnil
    · revert hslash
      decide
  apply (FileTree.changes_write h).mono
  intro p hp
  rw [summaryFile_eq] at hp
  apply FileTree.getLast?_of_place hnul isEnding_summaryName hp

/-- A gate with its own reports, the report of the pinned leg and the summary leave the report of
the unpinned leg as it is. -/
theorem isUntouched_of_changes {m m' : Machine} (hc : NamesFiles d.base)
    (h : FileTree.Changes
      (fun p => IsOwnName d.base p ∨ IsLegName d.base pinnedName p ∨ IsSummaryName d p)
      m.files m'.files) :
  IsUntouched (legReport d.base.outDir d.base.reportStem unpinnedName) m m'
  := by
  intro p hp
  have hname : IsLegName d.base unpinnedName p := by
    rw [legReport_eq] at hp
    apply FileTree.getLast?_of_place hc.nul_notMem IsEnding.unpinned hp
  rcases h p with hsame | ⟨-, hnew⟩ | ⟨hown | hpinned | hsummary, -⟩
  · left
    apply hsame
  · right
    apply hnew
  · cases not_isOwnName_of_unpinned hname hown
  · cases not_unpinned_of_pinned hpinned hname
  · cases not_isSummaryName_of_unpinned hname hsummary

end

/-- What is left behind by a run that returns, if both legs write their own reports only.  The
report of the pinned leg is what the file with its name holds.  So is that of the unpinned leg, if
it came to a decision; else nothing was written to the file with its name.  The file of the summary
gives the report of the unpinned leg as its output exactly if it was written
(`TellsOutput`): an error may quote its path, as that of what could not be preserved
(`names_unpreserved_report`). -/
theorem reports_survive (runner : Config → MachineRun Outcome) (d : DualConfig)
    (origin : RunMeta) (hc : NamesFiles d.base)
    (hpinned : Writes (IsReportPath d.pinnedLeg) (runner d.pinnedLeg))
    (hunpinned : Writes (IsReportPath d.unpinnedLeg) (runner d.unpinnedLeg))
    {m m' : Machine} {r : DualResult} (hrun : endOf (run runner d origin) m = (.ok r, m')) :
  ∃ lock m₀ m₁ ending m₂, (Machine.lockFile d.base.lockFile).run m = (.ok lock, m₀)
    ∧ endOf (runLeg runner d.pinnedLeg pinnedName) (m₀.print pinnedStart) = (.ok r.pinned, m₁)
    ∧ unpinnedEnd runner d m₁ = (ending, m₂)
    ∧ IsPreserved runner d.pinnedLeg pinnedName (m₀.print pinnedStart) r.pinned m'
    ∧ (∀ o, ending = some (.ok o) →
      IsPreserved runner d.unpinnedLeg unpinnedName (m₁.print unpinnedStart) o m')
    ∧ ((∀ o, ending ≠ some (.ok o)) →
      IsUntouched (legReport d.base.outDir d.base.reportStem unpinnedName) m₀ m')
    ∧ (r.unpinned = .passed ∨ r.unpinned = .failed ↔ ∃ o, ending = some (.ok o))
    ∧ ∃ p, m'.files.place m'.directory (summaryFile d) = .ok p
      ∧ ∀ content mode, m'.files.at? p = some (.file content mode) →
        content = summary d r.pinned.verdict.pass r.unpinned origin
        ∧ TellsOutput d r.pinned.verdict.pass r.unpinned origin (∃ o, ending = some (.ok o)) content
  := by
  have hc' : NamesFiles d.pinnedLeg := ⟨hc.outDir, hc.reportStem⟩
  obtain ⟨lock, m₀, m₁, ending, m₂, hlock, hleg, hend, hnoted, hdirectory, hwrite⟩ :=
    exists_of_endOf_run hrun
  have hdecided : r.unpinned = .passed ∨ r.unpinned = .failed ↔ ∃ o, ending = some (.ok o) := by
    rw [hnoted]
    apply noted_decided_iff
  obtain ⟨-, hchanges₁, mᵣ, content, p, hrunner, hcontent, hname, hholds⟩ :=
    exists_of_runLeg_ok hpinned hc' IsEnding.pinned hleg
  obtain ⟨hdirectory₂, hspec⟩ := unpinnedEnd_spec hunpinned hc hend
  have hsummary := changes_of_summary hc hwrite
  refine ⟨lock, m₀, m₁, ending, m₂, hlock, hleg, hend, ?_, ?_, ?_, hdecided, ?_⟩
  · -- neither the unpinned leg nor the summary has the name of the pinned leg
    have hpinned₂ := hholds.mono hdirectory₂ (changes_of_unpinnedEnd hunpinned hc hend)
      (not_or.2 ⟨not_isOwnName_of_pinned hname, not_unpinned_of_pinned hname⟩)
    have hpinned' := hpinned₂.mono hdirectory hsummary (not_isSummaryName_of_pinned hname)
    use mᵣ, content, hrunner, hcontent, hpinned'.content?
  · rintro o rfl
    obtain ⟨-, mᵤ, content, p, hrunner, hcontent, hname, hholds⟩ := hspec
    have hunpinned' := hholds.mono hdirectory hsummary (not_isSummaryName_of_unpinned hname)
    use mᵤ, content, hrunner, hcontent, hunpinned'.content?
  · intro hnone
    have hown := changes_of_undecided hunpinned hc hend hnone
    apply isUntouched_of_changes hc
    apply FileTree.Changes.trans _ (hsummary.mono fun p hp => .inr (.inr hp))
    apply FileTree.Changes.trans _ (hown.mono fun p hp => .inl hp)
    apply hchanges₁.mono fun p hp => hp.imp_right .inl
  · obtain ⟨p, hplace, hfile⟩ := FileTree.exists_place_of_write hwrite
    use p, hdirectory ▸ hplace
    intro content mode hat
    obtain rfl := hfile content mode hat
    use rfl
    rw [← hdecided]
    apply tellsOutput_summary

theorem writes_scripted (pinned unpinned : Except Failure Bool) (c : Config) :
  Writes (IsReportPath c) (scripted pinned unpinned c)
  := by
  have hstamp : IsStamp "20260102_030405".toList :=
    ⟨"20260102".toList, "030405".toList, by decide, by decide, by decide,
      List.all_eq_true.1 (by decide)⟩
  unfold scripted
  split
  · apply writes_throw
  · apply Writes.bind (writes_writeReport _ c hstamp)
    intro report
    apply writes_pure

/-- The machine of the runs, with the report of an unpinned leg of an earlier day. -/
def staleBench : Machine where
  files := {
    nodes := [
      (["perf".toList], .directory),
      (["perf".toList, "gate_unpinned_latest.md".toList], .file "# old\n".toList 0o644) ] }
  directory := []

/-- The report of an earlier day is replaced if the unpinned leg comes to a decision, and the
summary gives it as the output; if the leg crashes, the report is left and is not given. -/
theorem reports_survive_stale :
  (∃ m o r m' content, endOf (run (scripted (.ok true) (.ok false)) small benchOrigin) staleBench =
        (.ok r, m')
      ∧ IsPreserved (scripted (.ok true) (.ok false)) small.unpinnedLeg unpinnedName m o m'
      ∧ m'.files.content? m'.directory (summaryFile small) = .ok content
      ∧ outputLine small ∈ content.splitOn '\n')
    ∧ ∃ m r m' content, endOf (run (scripted (.ok true) (.error (.crash "thread".toList))) small
          benchOrigin) staleBench = (.ok r, m')
      ∧ IsPreserved (scripted (.ok true) (.error (.crash "thread".toList))) small.pinnedLeg
        pinnedName m r.pinned m'
      ∧ IsUntouched (legReport "perf".toList "gate".toList unpinnedName) m m'
      ∧ m'.files.content? m'.directory (summaryFile small) = .ok content
      ∧ outputLine small ∉ content.splitOn '\n'
  := by
  have hnames : NamesFiles small.base := by constructor <;> decide
  constructor
  · have hrun : endOf (run (scripted (.ok true) (.ok false)) small benchOrigin) staleBench =
        (.ok _, _) := rfl
    obtain ⟨lock, m₀, m₁, ending, m₂, hlock, hleg, hend, -, hkept, -, -, p, hplace, hfile⟩ :=
      reports_survive _ small benchOrigin hnames (writes_scripted _ _ _) (writes_scripted _ _ _) hrun
    obtain rfl := Except.ok.inj ((rfl : _ = Except.ok _).symm.trans hplace)
    obtain ⟨-, htells⟩ := hfile _ _ rfl
    obtain ⟨-, rfl⟩ := Prod.mk.inj (Eq.trans rfl hlock)
    obtain ⟨-, rfl⟩ := Prod.mk.inj hleg
    obtain ⟨rfl, -⟩ := Prod.mk.inj hend
    exact ⟨_, _, _, _, _, hrun, hkept _ rfl, rfl, (htells.output (by decide)).2 ⟨_, rfl⟩⟩
  · have hrun : endOf (run (scripted (.ok true) (.error (.crash "thread".toList))) small
        benchOrigin) staleBench = (.ok _, _) := rfl
    obtain ⟨lock, m₀, m₁, ending, m₂, hlock, hleg, hend, hkept, -, hleft, -, p, hplace, hfile⟩ :=
      reports_survive _ small benchOrigin hnames (writes_scripted _ _ _) (writes_scripted _ _ _) hrun
    obtain rfl := Except.ok.inj ((rfl : _ = Except.ok _).symm.trans hplace)
    obtain ⟨-, htells⟩ := hfile _ _ rfl
    obtain ⟨-, rfl⟩ := Prod.mk.inj (Eq.trans rfl hlock)
    obtain ⟨-, rfl⟩ := Prod.mk.inj hleg
    obtain ⟨rfl, -⟩ := Prod.mk.inj hend
    refine ⟨_, _, _, _, hrun, hkept, hleft (by simp), rfl, ?_⟩
    rw [htells.output (by decide)]
    simp

/-- The machine of the runs, with a directory where the report of the unpinned leg would go. -/
def blockedBench : Machine where
  files := {
    nodes := [
      (["perf".toList], .directory),
      (["perf".toList, "gate_unpinned_latest.md".toList], .directory) ] }
  directory := []

/-- If the report of the unpinned leg cannot be preserved, its path is named in the summary, by the
error, although nothing was written there. -/
theorem names_unpreserved_report :
  ∃ r m' content, endOf (run (scripted (.ok true) (.ok true)) small benchOrigin) blockedBench =
      (.ok r, m')
    ∧ m'.files.content? m'.directory "perf/gate_unpinned_latest.md".toList = .error .isDirectory
    ∧ m'.files.content? m'.directory (summaryFile small) = .ok content
    ∧ "perf/gate_unpinned_latest.md".toList <:+: content
  := by
  refine ⟨_, _, _, rfl, rfl, rfl, ?_⟩
  decide +kernel

end DualGate

end PerfGate
