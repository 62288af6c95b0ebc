import PerfGate.Dual.Summary
import PerfGate.Proofs.Path
import PerfGate.Proofs.Report

/-!
# The summary of a dual gate

What the text of a summary says of the unpinned leg (`DualGate.tellsOutput_summary`).  The report of
that leg is given as its output exactly if the leg came to a decision.  Other lines quote texts, and
an error may be that the report could not be preserved under its path; so the path may be found in a
summary that does not give it as an output.
-/

namespace PerfGate

namespace DualGate

open Report

/-! ### Items -/

/-- If one item begins another, with whatever follows them, then so do their names. -/
theorem name_prefix_of_item {name name' value value' t t' : Text}
    (h : item name value ++ t <+: item name' value' ++ t') :
  name <+: name' ∨ name' <+: name
  := by
  unfold item at h
  simp only [List.append_assoc, List.prefix_append_right_inj] at h
  apply List.prefix_or_prefix_of_prefix ((List.prefix_append _ _).trans h) (List.prefix_append _ _)

/-- Items are told apart by their names, unless one name begins with the other. -/
theorem item_ne {name name' : Text} (h : ¬ name <+: name') (h' : ¬ name' <+: name)
    (value value' : Text) :
  item name value ≠ item name' value'
  := by
  intro heq
  have hprefix : item name value ++ [] <+: item name' value' ++ [] := heq ▸ List.prefix_refl _
  rcases name_prefix_of_item hprefix with hp | hp
  · exact h hp
  · exact h' hp

theorem item_ne_nil (name value : Text) :
  item name value ≠ []
  := by
  simp [item]

/-- A line that does not begin as an item does is none. -/
theorem item_ne_line {name l : Text} (h : ¬ "- ".toList ++ name <+: l) (value : Text) :
  item name value ≠ l
  := by
  rintro rfl
  apply h
  unfold item
  rw [List.append_assoc]
  apply List.prefix_append

/-! ### The lines of a summary -/

/-- The lines in front of what a summary says of the unpinned leg. -/
def frontLines (d : DualConfig) (pinnedPass : Bool) (origin : RunMeta) : List Text :=
  [ "# Dual Perf Gate".toList,
    [],
    item "Date".toList origin.date,
    item "Pinned baseline".toList (quoted d.pinnedBaselineFile),
    item "Unpinned baseline".toList (quoted d.unpinnedBaselineFile),
    item "Pinned rounds/duration".toList
      (Decimal.signed d.pinnedRounds ++ " / ".toList ++ d.pinnedDuration),
    item "Unpinned rounds/duration".toList
      (Decimal.signed d.unpinnedRounds ++ " / ".toList ++ d.unpinnedDuration),
    item "Pinned output".toList (quoted (legReport d.base.outDir d.base.reportStem pinnedName)),
    item "Pinned verdict".toList
      (if pinnedPass then "PASS (blocking)".toList else "FAIL (blocking)".toList) ]

/-- The lines behind it, which are always the same. -/
def contractLines : List Text :=
  [ [],
    "## Contract".toList,
    [],
    "- Pinned gate is blocking.".toList,
    "- Unpinned gate is observational and never blocks merge.".toList ]

theorem summaryLines_eq (d : DualConfig) (pinnedPass : Bool) (unpinned : Observation)
    (origin : RunMeta) :
  summaryLines d pinnedPass unpinned origin =
    frontLines d pinnedPass origin ++ (observedLines d unpinned ++ contractLines)
  := rfl

/-- The line that gives the report of the unpinned leg as its output. -/
def outputLine (d : DualConfig) : Text :=
  item "Unpinned output".toList (quoted (legReport d.base.outDir d.base.reportStem unpinnedName))

/-- The line that quotes an error. -/
def errorLine (message : Text) : Text := item "Unpinned error".toList message

/-- The texts that a summary quotes. -/
def quotedTexts (d : DualConfig) (unpinned : Observation) (origin : RunMeta) : List Text :=
  [ origin.date, d.pinnedBaselineFile, d.unpinnedBaselineFile, d.pinnedDuration,
    d.unpinnedDuration, d.base.outDir, d.base.reportStem ]
  ++ match unpinned with
    | .aborted message => [message]
    | _ => []

/-- What the text of a summary says of the unpinned leg, which came to a decision or did not. -/
structure TellsOutput (d : DualConfig) (pinnedPass : Bool) (unpinned : Observation)
    (origin : RunMeta) (decided : Prop) (content : Text) : Prop where
  /-- Behind the lines on the pinned leg, its report is given as the output exactly if it came to a
  decision. -/
  behind : ∃ back, content = Text.unlines (frontLines d pinnedPass origin) ++ back
    ∧ (outputLine d ++ ['\n'] <+: back ↔ decided)
  /-- So it is in all lines of the text, unless what is quoted has lines of its own. -/
  output : (∀ t ∈ quotedTexts d unpinned origin, '\n' ∉ t) →
    (outputLine d ∈ content.splitOn '\n' ↔ decided)
  /-- An error is quoted. -/
  error : ∀ message, unpinned = .aborted message →
    (∀ t ∈ quotedTexts d unpinned origin, '\n' ∉ t) → errorLine message ∈ content.splitOn '\n'

section

variable {d : DualConfig} {pinnedPass : Bool} {unpinned : Observation} {origin : RunMeta}

/-- Without a decision no line on the unpinned leg begins with the output. -/
theorem not_prefix_of_mem_observedLines (h : ¬ (unpinned = .passed ∨ unpinned = .failed)) :
  ∀ l ∈ observedLines d unpinned, ∀ t, ¬ outputLine d <+: l ++ t
  := by
  intro l hl t hprefix
  cases unpinned with
  | skipped =>
    obtain rfl := List.mem_singleton.1 hl
    unfold outputLine item at hprefix
    rw [List.append_assoc _ _ t, List.prefix_append_right_inj] at hprefix
    simp [quoted] at hprefix
  | passed | failed => simp at h
  | aborted message =>
    have hnames : ∀ name ∈ ["Unpinned verdict".toList, "Unpinned error".toList],
        ¬ ("Unpinned output".toList <+: name ∨ name <+: "Unpinned output".toList) := by decide
    have hitem : ∀ name value, l = item name value →
        "Unpinned output".toList <+: name ∨ name <+: "Unpinned output".toList := by
      rintro name value rfl
      apply name_prefix_of_item (t := [])
      rw [List.append_nil]
      apply hprefix
    rcases List.mem_pair.1 hl with rfl | rfl
    · apply hnames _ (by simp) (hitem _ _ rfl)
    · apply hnames _ (by simp) (hitem _ _ rfl)

theorem outputLine_notMem_frontLines :
  outputLine d ∉ frontLines d pinnedPass origin
  := by
  simp only [frontLines, List.mem_cons, List.not_mem_nil, or_false, not_or]
  exact ⟨item_ne_line (by decide) _, item_ne_line (by decide) _,
    item_ne (by decide) (by decide) _ _, item_ne (by decide) (by decide) _ _,
    item_ne (by decide) (by decide) _ _, item_ne (by decide) (by decide) _ _,
    item_ne (by decide) (by decide) _ _, item_ne (by decide) (by decide) _ _,
    item_ne (by decide) (by decide) _ _⟩

theorem outputLine_notMem_contractLines :
  outputLine d ∉ contractLines
  := by
  simp only [contractLines, List.mem_cons, List.not_mem_nil, or_false, not_or]
  exact ⟨item_ne_line (by decide) _, item_ne_line (by decide) _, item_ne_line (by decide) _,
    item_ne_line (by decide) _, item_ne_line (by decide) _⟩

/-- With a decision the lines on the unpinned leg begin with the output. -/
theorem exists_observedLines_eq (h : unpinned = .passed ∨ unpinned = .failed) :
  ∃ ls, observedLines d unpinned = outputLine d :: ls
  := by
  rcases h with rfl | rfl <;> exact ⟨_, rfl⟩

theorem outputLine_mem_summaryLines_iff :
  outputLine d ∈ summaryLines d pinnedPass unpinned origin ↔
    unpinned = .passed ∨ unpinned = .failed
  := by
  rw [summaryLines_eq, List.mem_append, List.mem_append]
  constructor
  · rintro (hfront | hobserved | hcontract)
    · cases outputLine_notMem_frontLines hfront
    · by_contra hnone
      apply not_prefix_of_mem_observedLines hnone _ hobserved []
      apply List.prefix_append
    · cases outputLine_notMem_contractLines hcontract
  · intro hdecided
    obtain ⟨ls, hls⟩ := exists_observedLines_eq (d := d) hdecided
    rw [hls]
    right
    left
    apply List.mem_cons_self

/-! ### The text of a summary -/

theorem feed_notMem_legReport {outDir stem leg : Text} (hdir : '\n' ∉ outDir) (hstem : '\n' ∉ stem)
    (hleg : '\n' ∉ leg) :
  '\n' ∉ legReport outDir stem leg
  := by
  intro hmem
  rcases Path.mem_join hmem with hmem | hmem | heq
  · exact hdir hmem
  · rw [List.mem_append, List.mem_append, List.mem_cons] at hmem
    rcases hmem with (hmem | heq | hmem) | hmem
    · exact hstem hmem
    · revert heq
      decide
    · exact hleg hmem
    · revert hmem
      decide
  · revert heq
    decide

variable (h : ∀ t ∈ quotedTexts d unpinned origin, '\n' ∉ t)

include h

theorem feed_notMem_frontLines :
  ∀ l ∈ frontLines d pinnedPass origin, '\n' ∉ l
  := by
  have hfeed : '\n' ∈ cutMarks := by decide
  have hquoted := fun t ht => h t (List.mem_append_left _ ht)
  simp only [List.forall_mem_cons, List.not_mem_nil, false_implies, implies_true, and_true]
    at hquoted
  obtain ⟨hdate, hpinned, hunpinned, hduration, hduration', hdir, hstem⟩ := hquoted
  have hplan : ∀ (rounds : Int) {duration : Text}, '\n' ∉ duration →
      '\n' ∉ Decimal.signed rounds ++ " / ".toList ++ duration := by
    intro rounds duration hduration
    simp only [List.mem_append, not_or]
    exact ⟨⟨notMem_signed hfeed _, by decide⟩, hduration⟩
  have hverdict : '\n' ∉ if pinnedPass then "PASS (blocking)".toList
      else "FAIL (blocking)".toList := by
    split <;> decide
  simp only [frontLines, List.forall_mem_cons, List.not_mem_nil, false_implies, implies_true,
    and_true, not_false_eq_true, true_and]
  refine ⟨by decide, notMem_item hfeed (by decide) hdate, ?_, ?_, ?_, ?_, ?_, ?_⟩
  · apply notMem_item hfeed (by decide) (notMem_quoted hfeed hpinned)
  · apply notMem_item hfeed (by decide) (notMem_quoted hfeed hunpinned)
  · apply notMem_item hfeed (by decide) (hplan _ hduration)
  · apply notMem_item hfeed (by decide) (hplan _ hduration')
  · apply notMem_item hfeed (by decide) (notMem_quoted hfeed _)
    apply feed_notMem_legReport hdir hstem (by decide)
  · apply notMem_item hfeed (by decide) hverdict

theorem feed_notMem_observedLines :
  ∀ l ∈ observedLines d unpinned, '\n' ∉ l
  := by
  have hfeed : '\n' ∈ cutMarks := by decide
  have houtput : '\n' ∉ outputLine d := by
    apply notMem_item hfeed (by decide) (notMem_quoted hfeed _)
    apply feed_notMem_legReport (h _ (by simp [quotedTexts])) (h _ (by simp [quotedTexts]))
      (by decide)
  have hverdict : ∀ words : Text, '\n' ∉ words → '\n' ∉ observedLines.verdict words :=
    fun words hwords => notMem_item hfeed (by decide) hwords
  cases unpinned with
  | skipped =>
    unfold observedLines
    rw [List.forall_mem_singleton]
    decide
  | passed | failed =>
    unfold observedLines
    rw [List.forall_mem_cons, List.forall_mem_singleton]
    use houtput, hverdict _ (by decide)
  | aborted message =>
    have hmessage : '\n' ∉ message := h _ (by simp [quotedTexts])
    unfold observedLines
    rw [List.forall_mem_cons, List.forall_mem_singleton]
    use hverdict _ (by decide), notMem_item hfeed (by decide) hmessage

theorem feed_notMem_summaryLines :
  ∀ l ∈ summaryLines d pinnedPass unpinned origin, '\n' ∉ l
  := by
  have hcontract : ∀ l ∈ contractLines, '\n' ∉ l := by decide
  intro l hl
  rw [summaryLines_eq, List.mem_append, List.mem_append] at hl
  rcases hl with hl | hl | hl
  · apply feed_notMem_frontLines h l hl
  · apply feed_notMem_observedLines h l hl
  · apply hcontract l hl

theorem mem_splitOn_summary_iff {l : Text} (hl : l ≠ []) :
  l ∈ (summary d pinnedPass unpinned origin).splitOn '\n' ↔
    l ∈ summaryLines d pinnedPass unpinned origin
  := by
  rw [summary, Text.splitOn_unlines (feed_notMem_summaryLines h)]
  simp [hl]

end

/-- The text of a summary gives the report of the unpinned leg as its output exactly if that leg
passed or failed. -/
theorem tellsOutput_summary (d : DualConfig) (pinnedPass : Bool) (unpinned : Observation)
    (origin : RunMeta) :
  TellsOutput d pinnedPass unpinned origin (unpinned = .passed ∨ unpinned = .failed)
    (summary d pinnedPass unpinned origin)
  := by
  constructor
  case behind =>
    obtain ⟨l, ls, hls⟩ : ∃ l ls, observedLines d unpinned = l :: ls := by
      cases unpinned <;> exact ⟨_, _, rfl⟩
    use l ++ ('\n' :: Text.unlines (ls ++ contractLines))
    constructor
    · rw [summary, summaryLines_eq, hls]
      simp [Text.unlines]
    · constructor
      · intro hprefix
        by_contra hnone
        apply not_prefix_of_mem_observedLines (d := d) hnone l (by simp [hls])
        apply (List.prefix_append _ _).trans hprefix
      · intro hdecided
        obtain ⟨ls', hls'⟩ := exists_observedLines_eq (d := d) hdecided
        obtain ⟨rfl, -⟩ := List.cons.inj (hls.symm.trans hls')
        rw [List.prefix_append_right_inj]
        apply List.cons_prefix_cons.2 ⟨rfl, List.nil_prefix⟩
  case output =>
    intro h
    rw [mem_splitOn_summary_iff h (l := outputLine d) (item_ne_nil _ _),
      outputLine_mem_summaryLines_iff]
  case error =>
    rintro message rfl h
    rw [mem_splitOn_summary_iff h (l := errorLine message) (item_ne_nil _ _), summaryLines_eq]
    simp [observedLines, errorLine]

end DualGate

end PerfGate
