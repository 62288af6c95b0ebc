import PerfGate.Outcome
import PerfGate.Proofs.Baseline.Reload
import PerfGate.Proofs.Text.Parts
import PerfGate.Proofs.Verdict.Monotone

/-!
# What a report says

The report of a verdict and the exit code are made of different parts of the verdict.  Both say the
same as the comparisons over the history (`Report.render_agrees`): the last line, which no other line
imitates, tells whether all the comparisons hold; the table has a row for every scenario; and a
section, there only if the gate failed, lists the failing scenarios with the comparisons that do not
hold.
-/

namespace PerfGate

namespace Report

/-! ### Comparisons -/

/-- The comparisons that are made for a scenario, with the names that a report gives them. -/
def comparisons (h : History Binary64) (p : Policy Binary64) (s : ScenarioName)
    (base : BaselineFigures Binary64) : List (Bool × Text) :=
  let m := h.medians s
  let needed := quorum h.rounds p.minPassRatio p.minPassRounds
  [ (Scalar.le base.rps m.rps, "throughput".toList),
    (Scalar.le m.p99 base.p99, "p99".toList),
    (Scalar.le m.cpuCost base.cpuCost, "cpu/kRPS".toList),
    (Scalar.le m.rss (Scalar.ofInt p.memoryLimitKb), "memory cap".toList),
    (needed ≤ (h.passTally s : Int), "quorum ".toList ++ outOf (h.passTally s) needed) ]

/-- Whether a scenario has a baseline and meets all its comparisons. -/
def meets (h : History Binary64) (b : Baseline Binary64) (p : Policy Binary64) (s : ScenarioName) :
    Bool :=
  (Table.get? s b).any fun base => (comparisons h p s base).all (·.1)

/-! ### What is said -/

/-- The line above the failing scenarios. -/
def failuresTitle : Text := "## Failing Scenarios".toList

/-- The line above the last one. -/
def verdictTitle : Text := "## Verdict".toList

/-- Whether a line is the table row of a scenario. -/
def IsRowOf (s : ScenarioName) (line : Text) : Prop :=
  ∃ cells, line = tableRow (quoted s :: cells) ∧ cells.length = 17 ∧ ∀ cell ∈ cells, '|' ∉ cell

/-- Whether a line lists a failing scenario, with the comparisons that do not hold. -/
def IsFailureOf (h : History Binary64) (b : Baseline Binary64) (p : Policy Binary64)
    (s : ScenarioName) (line : Text) : Prop :=
  ∃ base names, Table.get? s b = some base
    ∧ names = ((comparisons h p s base).filter (!·.1)).map (·.2)
    ∧ names ≠ []
    ∧ line = item (quoted s) (Text.join ", ".toList names)

/-- What the lines of a report and an exit code say of a history. -/
structure Agrees (h : History Binary64) (b : Baseline Binary64) (p : Policy Binary64)
    (lines : List Text) (code : Nat) : Prop where
  /-- The code is zero if all the scenarios meet their comparisons. -/
  code_iff : code = 0 ↔ ∀ s ∈ h.scenarios, meets h b p s = true
  /-- The last line tells whether the code is zero, and no line before could be taken for it. -/
  last : ∃ front, lines = front ++ [if code = 0 then passLine else failLine]
    ∧ passLine ∉ front ∧ failLine ∉ front
  /-- The table has one row for each scenario, in their order. -/
  table : ∃ rows, lines.filter (·.head? == some '|') = tableHeader :: tableRule :: rows
    ∧ List.Forall₂ IsRowOf h.scenarios rows
  /-- No scenario is listed as failing if the code is zero. -/
  passed : code = 0 → failuresTitle ∉ lines
  /-- Otherwise those are that do not meet their comparisons, in their order, once each. -/
  failed : code ≠ 0 → ∃ front items,
    lines = front ++ [[], failuresTitle, []] ++ items ++ [[], verdictTitle, [], failLine]
    ∧ failuresTitle ∉ front
    ∧ List.Forall₂ (IsFailureOf h b p) (h.scenarios.filter (!meets h b p ·)) items

/-! ### Cells -/

section Cells

variable {a : Char} (ha : a ∈ cutMarks)

include ha

theorem notMem_fixed (x : Binary64) (places : Nat) :
  a ∉ x.fixed places
  := by
  intro h
  apply (SheetRow.isFigure_of_mem_fixed h).notMem
  simp only [cutMarks, List.mem_cons, List.not_mem_nil, or_false] at ha ⊢
  tauto

theorem notMem_percent (x : Binary64) (places : Nat) :
  a ∉ x.fixed places ++ ['%']
  := by
  have hpercent : a ∉ ['%'] := notMem_of_mem_cutMarks (by decide) ha
  simp only [List.mem_append, not_or]
  use notMem_fixed ha x places

theorem notMem_outOf (part whole : Int) :
  a ∉ outOf part whole
  := by
  have hslash : a ≠ '/' :=
    List.ne_of_not_mem_cons (notMem_of_mem_cutMarks (t := ['/']) (by decide) ha)
  simp only [outOf, List.mem_append, List.mem_cons, not_or]
  use notMem_signed ha part, hslash, notMem_signed ha whole

theorem notMem_quoted {t : Text} (ht : a ∉ t) :
  a ∉ quoted t
  := by
  have hquote : a ∉ ['\x60'] := notMem_of_mem_cutMarks (by decide) ha
  simp only [quoted, List.mem_append, List.mem_cons, not_or] at hquote ⊢
  exact ⟨⟨hquote.1, ht⟩, hquote⟩

end Cells

/-- The cells of a row behind the name of the scenario. -/
def figures (f : ScenarioFinding Binary64) : List Text :=
  let b := f.baseline
  let m := f.median
  let delta (base value : Binary64) : Text := (percentDelta base value).fixed 2 ++ ['%']
  [ b.rps.fixed 2, m.rps.fixed 2, delta b.rps m.rps,
    f.rpsVariation.fixed 2,
    b.p99.fixed 2, m.p99.fixed 2, delta b.p99 m.p99,
    b.cpu.fixed 2, m.cpu.fixed 2, delta b.cpu m.cpu,
    b.cpuCost.fixed 4, m.cpuCost.fixed 4, delta b.cpuCost m.cpuCost,
    b.rss.fixed 0, m.rss.fixed 0, delta b.rss m.rss,
    outOf f.passRounds f.roundsExecuted ]

theorem scenarioRow_eq (f : ScenarioFinding Binary64) :
  scenarioRow f = tableRow (quoted (Text.untilNul f.scenario) :: figures f)
  := rfl

theorem notMem_figures {a : Char} (ha : a ∈ cutMarks) (f : ScenarioFinding Binary64) :
  ∀ cell ∈ figures f, a ∉ cell
  := by
  simp only [figures, List.forall_mem_cons, List.not_mem_nil, false_implies, implies_true, and_true,
    notMem_fixed ha, notMem_percent ha, notMem_outOf ha, not_false_eq_true]

/-! ### Findings -/

section Findings

variable {h : History Binary64} {b : Baseline Binary64} {p : Policy Binary64} {s : ScenarioName}
  {f : ScenarioFinding Binary64} {v : Verdict Binary64}

/-- Whether a finding is the one for a scenario. -/
def IsFinding (h : History Binary64) (b : Baseline Binary64) (p : Policy Binary64)
    (s : ScenarioName) (f : ScenarioFinding Binary64) : Prop :=
  ∃ base, Table.get? s b = some base
    ∧ f = scenarioFinding h p (quorum h.rounds p.minPassRatio p.minPassRounds) s base

theorem forall₂_isFinding (hv : finalVerdict h b p = .ok v) :
  List.Forall₂ (IsFinding h b p) h.scenarios v.scenarios
    ∧ v.passesNeeded = quorum h.rounds p.minPassRatio p.minPassRounds
  := by
  obtain ⟨v', hv', -, -, hneeded, -, hfindings⟩ := exists_finalVerdict p (covers_of_finalVerdict hv)
  obtain rfl := Except.ok.inj (hv.symm.trans hv')
  rw [hneeded] at hfindings
  use hfindings

/-- A scenario passes exactly if it meets its comparisons. -/
theorem IsFinding.pass_eq (hf : IsFinding h b p s f) :
  f.pass = meets h b p s
  := by
  obtain ⟨base, hbase, rfl⟩ := hf
  rw [meets, hbase]
  simp [scenarioFinding, Checks.all, Checks.ofMedians, comparisons, Bool.and_assoc]

theorem IsFinding.scenario_eq (hf : IsFinding h b p s f) :
  f.scenario = s
  := by
  obtain ⟨base, -, rfl⟩ := hf
  rfl

theorem map_scenario_eq (hv : finalVerdict h b p = .ok v) :
  v.scenarios.map (·.scenario) = h.scenarios
  := by
  have hmap : List.Forall₂ (· = ·) (v.scenarios.map (·.scenario)) h.scenarios := by
    rw [List.forall₂_map_left_iff]
    apply List.Forall₂.flip
    apply (forall₂_isFinding hv).1.imp
    intro s f hf
    apply hf.scenario_eq
  rwa [List.forall₂_eq_eq_eq] at hmap

/-- A verdict passes exactly if all the scenarios meet their comparisons. -/
theorem pass_iff (hv : finalVerdict h b p = .ok v) :
  v.pass = true ↔ ∀ s ∈ h.scenarios, meets h b p s = true
  := by
  rw [finalVerdict_pass_iff hv]
  apply forall₂_congr
  intro s _
  cases hbase : Table.get? s b with
  | none => simp [meets, hbase]
  | some base =>
    have hf : IsFinding h b p s _ := ⟨base, hbase, rfl⟩
    rw [← hf.pass_eq]
    simp

/-- The row of a scenario starts with its name. -/
theorem IsFinding.isRowOf (hf : IsFinding h b p s f) (hs : '\x00' ∉ s) :
  IsRowOf s (scenarioRow f)
  := by
  refine ⟨figures f, ?_, rfl, notMem_figures (by decide) f⟩
  rw [scenarioRow_eq, hf.scenario_eq, Text.untilNul_eq_self hs]

/-- The line of a failing scenario lists the comparisons that do not hold. -/
theorem IsFinding.isFailureOf (hf : IsFinding h b p s f) (hs : meets h b p s = false) :
  IsFailureOf h b p s (failureLine (quorum h.rounds p.minPassRatio p.minPassRounds) f)
  := by
  obtain ⟨base, hbase, rfl⟩ := hf
  have hbroken : ∀ cs : List (Bool × Text),
      cs.filterMap (fun c => if c.1 then none else some c.2)
        = (cs.filter (!·.1)).map (·.2) := by
    intro cs
    induction cs with
    | nil => rfl
    | cons c cs ih => cases hc : c.1 <;> simp [hc, ih]
  refine ⟨base, _, hbase, rfl, ?_, congrArg _ (congrArg _ (hbroken (comparisons h p s base)))⟩
  rw [meets, hbase, Option.any_some] at hs
  obtain ⟨c, hc, hfails⟩ := List.all_eq_false.1 hs
  apply List.ne_nil_of_mem (a := c.2)
  apply List.mem_map_of_mem
  apply List.mem_filter.2
  use hc
  simpa using hfails

end Findings

/-! ### The head -/

/-- The texts of the settings and of the provenance that a report shows. -/
def reportedTexts (c : Config) (run : RunMeta) : List Text :=
  [run.date, run.hostname, run.revision, c.baselineFile, c.policy.duration, c.backendTransport]

/-- The items of the head, each with its name and its value. -/
def headItems (v : Verdict Binary64) (c : Config) (run : RunMeta) : List (Text × Text) :=
  let p := c.policy
  [ ("Date".toList, run.date),
    ("Host".toList, run.hostname),
    ("Revision".toList, quoted run.revision),
    ("Baseline".toList, quoted c.baselineFile),
    ("Profile".toList, "single-core ".toList ++ quoted c.shape),
    ("Core pinning".toList,
      if c.autoPinCores then "auto".toList else "explicit pins only".toList),
    ("Rounds planned".toList, Decimal.signed v.plannedRounds),
    ("Rounds executed".toList, Decimal.signed v.roundsExecuted),
    ("Extra rounds allowed".toList, Decimal.signed p.maxExtraRounds),
    ("Round duration".toList, Text.untilNul p.duration),
    ("Jitter threshold (RPS CV)".toList, p.maxVariation.fixed 2 ++ ['%']),
    ("Min passing rounds per scenario".toList,
      outOf v.passesNeeded v.roundsExecuted ++ " (ratio=".toList ++
        p.minPassRatio.fixed 4 ++ [')']),
    ("RSS limit".toList, Decimal.signed p.memoryLimitKb ++ " KB".toList),
    ("Upstream transport".toList,
      c.backendTransport ++
        if c.requireBackendH2 then " (pure h2 required)".toList else []),
    ("Contract priority".toList,
      "p99 (no regression) -> throughput (no regression) -> CPU ".toList ++
        "efficiency (no regression) -> memory cap".toList) ]

/-- The title of a report. -/
def title : Text := "# Zero Regression Gate Result".toList

variable {v : Verdict Binary64} {c : Config} {run : RunMeta}

theorem head_eq (v : Verdict Binary64) (c : Config) (run : RunMeta) :
  head v c run = [title, []] ++ (headItems v c run).map (fun i => item i.1 i.2) ++ [[]]
  := rfl

theorem head?_item (name value : Text) :
  (item name value).head? = some '-'
  := rfl

/-- A line of the head is its title, or it is empty or an item. -/
theorem eq_title_or_head?_of_mem_head {l : Text} (hl : l ∈ head v c run) :
  l = title ∨ l.head? ∈ [none, some '-']
  := by
  rw [head_eq, List.mem_append, List.mem_append, List.mem_map] at hl
  rcases hl with (hl | ⟨i, -, rfl⟩) | hl
  · rcases List.mem_cons.1 hl with rfl | hl
    · left; rfl
    · right
      simp [List.mem_singleton.1 hl]
  · right
    simp [head?_item]
  · right
    simp [List.mem_singleton.1 hl]

theorem feed_notMem_headItems (h : ∀ t ∈ reportedTexts c run, '\n' ∉ t) :
  ∀ i ∈ headItems v c run, '\n' ∉ i.1 ∧ '\n' ∉ i.2
  := by
  have hfeed : '\n' ∈ cutMarks := by decide
  simp only [reportedTexts, List.forall_mem_cons, List.not_mem_nil, false_implies, implies_true,
    and_true] at h
  obtain ⟨hdate, hhost, hrevision, hbaseline, hduration, htransport⟩ := h
  have hshape : '\n' ∉ c.shape := by
    simp only [Config.shape, List.mem_append, List.mem_cons, not_or]
    exact ⟨notMem_signed hfeed _, by decide, notMem_signed hfeed _⟩
  have hpinning : '\n' ∉ if c.autoPinCores then "auto".toList else "explicit pins only".toList := by
    split <;> decide
  have hrequired : '\n' ∉ if c.requireBackendH2 then " (pure h2 required)".toList else [] := by
    split <;> decide
  simp only [headItems, List.forall_mem_cons, List.not_mem_nil, false_implies, implies_true,
    and_true, List.mem_append, not_or]
  refine ⟨⟨by decide, hdate⟩, ⟨by decide, hhost⟩, ⟨by decide, notMem_quoted hfeed hrevision⟩,
    ⟨by decide, notMem_quoted hfeed hbaseline⟩,
    ⟨by decide, by decide, notMem_quoted hfeed hshape⟩, ⟨by decide, hpinning⟩,
    ⟨by decide, notMem_signed hfeed _⟩, ⟨by decide, notMem_signed hfeed _⟩,
    ⟨by decide, notMem_signed hfeed _⟩, ⟨by decide, mt Text.mem_of_mem_untilNul hduration⟩,
    ⟨by decide, notMem_fixed hfeed _ _, by decide⟩,
    ⟨by decide, ⟨⟨notMem_outOf hfeed _ _, by decide⟩, notMem_fixed hfeed _ _⟩, by decide⟩,
    ⟨by decide, notMem_signed hfeed _, by decide⟩, ⟨by decide, htransport, hrequired⟩,
    ⟨by decide, by decide, by decide⟩⟩

theorem feed_notMem_head (h : ∀ t ∈ reportedTexts c run, '\n' ∉ t) :
  ∀ l ∈ head v c run, '\n' ∉ l
  := by
  intro l hl
  rw [head_eq, List.mem_append, List.mem_append, List.mem_map] at hl
  rcases hl with (hl | ⟨i, hi, rfl⟩) | hl
  · revert l
    decide
  · obtain ⟨hname, hvalue⟩ := feed_notMem_headItems h i hi
    apply notMem_item (by decide) hname hvalue
  · simp [List.mem_singleton.1 hl]

/-! ### The lines of a report -/

theorem feed_notMem_tableRow {cells : List Text} (h : ∀ cell ∈ cells, '\n' ∉ cell) :
  '\n' ∉ tableRow cells
  := by
  simp only [tableRow, List.mem_cons, List.mem_flatMap, not_or]
  refine ⟨by decide, ?_⟩
  rintro ⟨cell, hcell, hmem⟩
  simp only [List.mem_append, List.mem_cons, List.not_mem_nil, or_false] at hmem
  rcases hmem with (hmem | hmem) | hmem | hmem
  · cases hmem
  · apply h cell hcell hmem
  · cases hmem
  · cases hmem

theorem feed_notMem_join {sep : Text} {ts : List Text} (hsep : '\n' ∉ sep)
    (h : ∀ t ∈ ts, '\n' ∉ t) :
  '\n' ∉ Text.join sep ts
  := by
  induction ts with
  | nil => simp [Text.join]
  | cons t ts ih =>
    rw [List.forall_mem_cons] at h
    cases ts with
    | nil => apply h.1
    | cons u us =>
      simp only [Text.join, List.mem_append, not_or]
      exact ⟨⟨h.1, hsep⟩, ih h.2⟩

theorem feed_notMem_failureLine {f : ScenarioFinding Binary64} (hf : '\n' ∉ f.scenario)
    (needed : Int) :
  '\n' ∉ failureLine needed f
  := by
  have hfeed : '\n' ∈ cutMarks := by decide
  apply notMem_item hfeed (notMem_quoted hfeed hf)
  apply feed_notMem_join (by decide)
  intro t ht
  obtain ⟨⟨ok, name⟩, hmem, hname⟩ := List.mem_filterMap.1 ht
  obtain rfl : name = t := by
    dsimp only at hname
    split at hname
    · cases hname
    · exact Option.some.inj hname
  have hquorum : '\n' ∉ "quorum ".toList ++ outOf f.passRounds needed := by
    rw [List.mem_append, not_or]
    exact ⟨by decide, notMem_outOf hfeed _ _⟩
  simp only [List.mem_cons, Prod.mk.injEq, List.not_mem_nil, or_false] at hmem
  rcases hmem with ⟨-, rfl⟩ | ⟨-, rfl⟩ | ⟨-, rfl⟩ | ⟨-, rfl⟩ | ⟨-, rfl⟩
  · decide
  · decide
  · decide
  · decide
  · apply hquorum

theorem mem_failures {l : Text} (hl : l ∈ failures v) :
  l ∈ [[], failuresTitle] ∨ ∃ f ∈ v.scenarios, l = failureLine v.passesNeeded f
  := by
  unfold failures at hl
  split at hl
  · cases hl
  · rw [List.mem_append, List.mem_map] at hl
    rcases hl with hl | ⟨f, hf, rfl⟩
    · left
      simp only [List.mem_cons, List.not_mem_nil, or_false] at hl ⊢
      tauto
    · right
      use f, List.mem_of_mem_filter hf

theorem feed_notMem_toLines (hreported : ∀ t ∈ reportedTexts c run, '\n' ∉ t)
    (hnames : ∀ f ∈ v.scenarios, '\n' ∉ f.scenario) :
  ∀ l ∈ toLines v c run, '\n' ∉ l
  := by
  have hfeed : '\n' ∈ cutMarks := by decide
  have hwords : ∀ l ∈ [[], failuresTitle], '\n' ∉ l := by decide
  intro l hl
  simp only [toLines, List.mem_append, or_assoc] at hl
  rcases hl with hl | hl | hl | hl
  · apply feed_notMem_head hreported l hl
  · simp only [table, List.mem_cons, List.mem_map] at hl
    rcases hl with rfl | rfl | ⟨f, hf, rfl⟩
    · decide
    · decide
    · rw [scenarioRow_eq]
      apply feed_notMem_tableRow
      rw [List.forall_mem_cons]
      use notMem_quoted hfeed (mt Text.mem_of_mem_untilNul (hnames f hf)), notMem_figures hfeed f
  · rcases mem_failures hl with hl | ⟨f, hf, rfl⟩
    · apply hwords l hl
    · apply feed_notMem_failureLine (hnames f hf)
  · revert l
    unfold conclusion
    cases v.pass <;> decide

/-- The lines of the table are those that start with a bar. -/
theorem filter_toLines (v : Verdict Binary64) (c : Config) (run : RunMeta) :
  (toLines v c run).filter (·.head? == some '|') = table v
  := by
  have hhead : (head v c run).filter (·.head? == some '|') = [] := by
    apply List.filter_eq_nil_iff.2
    intro l hl
    rcases eq_title_or_head?_of_mem_head hl with rfl | hmem
    · decide
    · simp only [List.mem_cons, List.not_mem_nil, or_false] at hmem
      rcases hmem with hmem | hmem <;> rw [hmem] <;> decide
  have htable : (table v).filter (·.head? == some '|') = table v := by
    apply List.filter_eq_self.2
    intro l hl
    simp only [table, List.mem_cons, List.mem_map] at hl
    rcases hl with rfl | rfl | ⟨f, -, rfl⟩ <;> rfl
  have hfailures : (failures v).filter (·.head? == some '|') = [] := by
    apply List.filter_eq_nil_iff.2
    have hwords : ∀ l ∈ [[], failuresTitle], ¬(l.head? == some '|') = true := by decide
    intro l hl
    rcases mem_failures hl with hl | ⟨f, -, rfl⟩
    · apply hwords l hl
    · rw [failureLine, head?_item]
      decide
  have hconclusion : (conclusion v).filter (·.head? == some '|') = [] := by
    unfold conclusion
    cases v.pass <;> decide
  simp only [toLines, List.filter_append, hhead, htable, hfailures, hconclusion, List.nil_append,
    List.append_nil]

/-- The lines before the last one. -/
def front (v : Verdict Binary64) (c : Config) (run : RunMeta) : List Text :=
  head v c run ++ table v ++ failures v ++ [[], verdictTitle, []]

theorem toLines_eq (v : Verdict Binary64) (c : Config) (run : RunMeta) :
  toLines v c run = front v c run ++ [if v.pass then passLine else failLine]
  := by
  rw [toLines, front, List.append_assoc _ _ [_]]
  rfl

theorem head?_of_mem_front {l : Text} (hl : l ∈ front v c run) :
  l.head? ∈ [none, some '#', some '-', some '|']
  := by
  have hwords : ∀ l ∈ [[], failuresTitle, verdictTitle],
      l.head? ∈ [none, some '#', some '-', some '|'] := by decide
  simp only [front, List.mem_append, or_assoc] at hl
  rcases hl with hl | hl | hl | hl
  · rcases eq_title_or_head?_of_mem_head hl with rfl | hmem
    · decide
    · simp only [List.mem_cons, List.not_mem_nil, or_false] at hmem ⊢
      tauto
  · rw [← filter_toLines v c run] at hl
    have hbar := List.of_mem_filter hl
    simp [beq_iff_eq.1 hbar]
  · rcases mem_failures hl with hl | ⟨f, -, rfl⟩
    · apply hwords
      simp only [List.mem_cons, List.not_mem_nil, or_false] at hl ⊢
      tauto
    · rw [failureLine, head?_item]
      decide
  · apply hwords
    simp only [List.mem_cons, List.not_mem_nil, or_false] at hl ⊢
    tauto

/-- Only the last line can be a verdict. -/
theorem notMem_front {l : Text} (hl : l ∈ [passLine, failLine]) :
  l ∉ front v c run
  := by
  have hverdicts : ∀ l ∈ [passLine, failLine],
      l.head? ∉ [none, some '#', some '-', some '|'] := by decide
  intro hmem
  apply hverdicts l hl (head?_of_mem_front hmem)

theorem failuresTitle_notMem_front :
  failuresTitle ∉ head v c run ++ table v
  := by
  intro hl
  rcases List.mem_append.1 hl with hl | hl
  · rcases eq_title_or_head?_of_mem_head hl with htitle | hmem
    · revert htitle
      decide
    · revert hmem
      decide
  · rw [← filter_toLines v c run] at hl
    have hbar := List.of_mem_filter hl
    revert hbar
    decide

/-! ### The whole report -/

variable {h : History Binary64} {b : Baseline Binary64} {p : Policy Binary64}

/-- The failing scenarios are listed in order, once each. -/
theorem forall₂_isFailureOf (hv : finalVerdict h b p = .ok v) :
  List.Forall₂ (IsFailureOf h b p) (h.scenarios.filter (!meets h b p ·))
    ((v.scenarios.filter (!·.pass)).map (failureLine v.passesNeeded))
  := by
  obtain ⟨hfindings, hneeded⟩ := forall₂_isFinding hv
  have hfailing : List.Forall₂ (IsFinding h b p) (h.scenarios.filter (!meets h b p ·))
      (v.scenarios.filter (!·.pass)) := by
    apply List.rel_filter _ hfindings
    intro s f hf
    dsimp only
    rw [hf.pass_eq]
  have hfails : ∀ s ∈ h.scenarios.filter (!meets h b p ·), meets h b p s = false := by
    intro s hs
    simpa using List.of_mem_filter hs
  rw [List.forall₂_map_right_iff, hneeded]
  apply ((List.forall₂_and_left _ _).2 ⟨hfails, hfailing⟩).imp
  rintro s f ⟨hs, hf⟩
  apply hf.isFailureOf hs

/-- The report of a verdict and the exit code say the same, and what the comparisons over the
history do. -/
theorem render_agrees (hv : finalVerdict h b p = .ok v) (files : ReportFiles)
    (hnames : ∀ s ∈ h.scenarios, '\n' ∉ s ∧ '\x00' ∉ s)
    (hreported : ∀ t ∈ reportedTexts c run, '\n' ∉ t) :
  Agrees h b p (Text.rawLines (render v c run)) (Outcome.exitCode { verdict := v, report := files })
  := by
  have hfeed : ∀ f ∈ v.scenarios, '\n' ∉ f.scenario := by
    intro f hf
    apply (hnames _ _).1
    rw [← map_scenario_eq hv]
    apply List.mem_map_of_mem hf
  have hcode : Outcome.exitCode { verdict := v, report := files } = 0 ↔ v.pass = true := by
    rw [Outcome.exitCode, Verdict.exitCode]
    cases v.pass <;> decide
  rw [render, Text.rawLines_unlines (feed_notMem_toLines hreported hfeed)]
  constructor
  case code_iff => rw [hcode, pass_iff hv]
  case last =>
    use front v c run
    simp only [hcode]
    use toLines_eq v c run, notMem_front (by simp), notMem_front (by simp)
  case table =>
    use v.scenarios.map scenarioRow, filter_toLines v c run
    rw [List.forall₂_map_right_iff]
    apply ((List.forall₂_and_left _ _).2 ⟨fun s hs => (hnames s hs).2, (forall₂_isFinding hv).1⟩).imp
    rintro s f ⟨hs, hf⟩
    apply hf.isRowOf hs
  case passed =>
    rw [hcode]
    intro hpass hmem
    rw [toLines, List.mem_append, List.mem_append, failures, if_pos hpass] at hmem
    rcases hmem with (hmem | hmem) | hmem
    · apply failuresTitle_notMem_front hmem
    · cases hmem
    · rw [conclusion, if_pos hpass] at hmem
      revert hmem
      decide
  case failed =>
    rw [Ne, hcode]
    intro hfail
    use head v c run ++ table v, (v.scenarios.filter (!·.pass)).map (failureLine v.passesNeeded)
    refine ⟨?_, failuresTitle_notMem_front, forall₂_isFailureOf hv⟩
    rw [toLines, failures, if_neg hfail, conclusion, if_neg hfail]
    simp only [List.append_assoc]
    rfl

/-! ### The report of one round -/

/-- What two scenarios are held against. -/
def pairBaseline : Baseline Binary64 :=
  let base : BaselineFigures Binary64 :=
    .ofMetrics { rps := .ofInt 100, p99 := .ofInt 9, cpu := .ofInt 40, rss := .ofInt 5 }
  [("slow".toList, base), ("fast".toList, base)]

/-- Their history after a round in which one of them was too slow. -/
def pairHistory : History Binary64 where
  scenarios := ["slow".toList, "fast".toList]
  tracks :=
    let track (s : ScenarioName) (rps : Int) (pass : Bool) : Track Binary64 :=
      { samples := [{ scenario := s, round := 1, metrics :=
          { rps := .ofInt rps, p99 := .ofInt 9, cpu := .ofInt 36, rss := .ofInt 5 } }]
        outcomes := [pass] }
    [("slow".toList, track "slow".toList 95 false), ("fast".toList, track "fast".toList 120 true)]
  rounds := 1

/-- Where the report of that round comes from. -/
def pairRun : RunMeta where
  date := "2026-01-02 03:04:05 UTC".toList
  fileStamp := "20260102_030405".toList
  hostname := "bench".toList
  revision := "v1".toList

theorem render_agrees_pair :
  ∃ v files, finalVerdict pairHistory pairBaseline Policy.standard = .ok v
    ∧ pairHistory.scenarios.filter (!meets pairHistory pairBaseline Policy.standard ·)
      = ["slow".toList]
    ∧ Outcome.exitCode { verdict := v, report := files } = 1
    ∧ Agrees pairHistory pairBaseline Policy.standard (Text.rawLines (render v {} pairRun)) 1
  := by
  have hcovers : Covers pairBaseline pairHistory.scenarios := by
    unfold Covers
    decide
  have hfailing : pairHistory.scenarios.filter (!meets pairHistory pairBaseline Policy.standard ·)
      = ["slow".toList] := by
    decide +kernel
  obtain ⟨v, hv, -⟩ := exists_finalVerdict Policy.standard hcovers
  let files := ReportFiles.of "perf".toList "gate".toList pairRun.fileStamp
  have hreported : ∀ t ∈ reportedTexts {} pairRun, '\n' ∉ t := by decide
  have hagrees := render_agrees hv files (by decide) hreported
  have hfail : v.pass = false := by
    apply Bool.eq_false_iff.2
    intro hpass
    have hnone : pairHistory.scenarios.filter
        (!meets pairHistory pairBaseline Policy.standard ·) = [] := by
      apply List.filter_eq_nil_iff.2
      intro s hs
      simp [(pass_iff hv).1 hpass s hs]
    rw [hnone] at hfailing
    cases hfailing
  have hcode : Outcome.exitCode { verdict := v, report := files } = 1 := by
    rw [Outcome.exitCode, Verdict.exitCode, hfail]
    rfl
  use v, files, hv, hfailing, hcode
  rwa [hcode] at hagrees

end Report

end PerfGate
