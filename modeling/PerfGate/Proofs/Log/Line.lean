import PerfGate.Proofs.Log.Figures
import PerfGate.Proofs.Log.Round
import PerfGate.Proofs.Text.Fields

/-!
# Lines that are read back

A line of a round log is the name of a scenario and settings, with a space in front of each
(`RoundLog.lineOf`).  A written load line is read back up to its latencies, which are whatever the
load generator called them, and a written resource line up to the sign of the processor time.
-/

namespace PerfGate

namespace RoundLog

/-! ### Settings -/

/-- The line of a scenario with settings. -/
def lineOf (scenario : ScenarioName) (settings : List (Text × Text)) : Text :=
  scenario ++ settings.flatMap fun (key, value) => ' ' :: (key ++ '=' :: value)

/-- Whether settings can be written: keys and values are fields, and no key has an equals sign. -/
def CanWrite (settings : List (Text × Text)) : Prop :=
  ∀ p ∈ settings, p.1.IsField ∧ '=' ∉ p.1 ∧ p.2.IsField

/-- Whether the settings of a line are found again in it: no key is empty or has an equals sign, and
nothing has a gap in it. -/
def CanFind (settings : List (Text × Text)) : Prop :=
  ∀ p ∈ settings, p.1 ≠ [] ∧ '=' ∉ p.1 ∧ (∀ c ∈ p.1, Text.isGap c = false)
    ∧ ∀ c ∈ p.2, Text.isGap c = false

theorem lineOf_cons (scenario : ScenarioName) (p : Text × Text) (settings : List (Text × Text)) :
  lineOf scenario (p :: settings) = scenario ++ ' ' :: lineOf (p.1 ++ '=' :: p.2) settings
  := by
  simp [lineOf]

theorem isField_setting {key value : Text} (hkey : key.IsField) (hvalue : value.IsField) :
  Text.IsField (key ++ '=' :: value)
  := by
  constructor
  · simp
  · intro c hc
    rcases List.mem_append.1 hc with hc | hc
    · apply hkey.2 c hc
    · rcases List.mem_cons.1 hc with rfl | hc
      · decide
      · apply hvalue.2 c hc

theorem CanFind.tail {p : Text × Text} {settings : List (Text × Text)}
    (h : CanFind (p :: settings)) :
  CanFind settings
  := by
  intro q hq
  apply h q (List.mem_cons_of_mem p hq)

theorem CanWrite.canFind {settings : List (Text × Text)} (h : CanWrite settings) :
  CanFind settings
  := by
  intro p hp
  obtain ⟨hkey, heq, hvalue⟩ := h p hp
  exact ⟨hkey.1, heq, fun c hc => hkey.isGap hc, fun c hc => hvalue.isGap hc⟩

/-- The fields of a line are those of its scenario, and then its settings. -/
theorem fields_lineOf_of_canFind (scenario : ScenarioName) {settings : List (Text × Text)}
    (h : CanFind settings) :
  Text.fields (lineOf scenario settings) =
    Text.fields scenario ++ settings.map fun p => p.1 ++ '=' :: p.2
  := by
  induction settings generalizing scenario with
  | nil => simp [lineOf]
  | cons p settings ih =>
    obtain ⟨-, -, hkey, hvalue⟩ := h p List.mem_cons_self
    have hgap : ∀ c ∈ p.1 ++ '=' :: p.2, Text.isGap c = false := by
      intro c hc
      rcases List.mem_append.1 hc with hc | hc
      · apply hkey c hc
      · rcases List.mem_cons.1 hc with rfl | hc
        · rfl
        · apply hvalue c hc
    rw [lineOf_cons, Text.fields_append_space, ih (p.1 ++ '=' :: p.2) h.tail,
      Text.fields_eq_of_isGap hgap, if_neg (by simp)]
    rfl

/-- The fields of a line are its scenario and its settings. -/
theorem fields_lineOf {scenario : ScenarioName} (hscenario : scenario.IsField)
    {settings : List (Text × Text)} (hsettings : CanWrite settings) :
  Text.fields (lineOf scenario settings) = scenario :: settings.map fun p => p.1 ++ '=' :: p.2
  := by
  rw [fields_lineOf_of_canFind scenario hsettings.canFind, Text.fields_eq_singleton hscenario]
  rfl

theorem setting?_append {key : Text} (hne : key ≠ []) (heq : '=' ∉ key) (value : Text) :
  setting? (key ++ '=' :: value) = some (key, value)
  := by
  rw [setting?, Text.splitFirst?_append heq]
  simp [hne]

theorem mapM_setting? {settings : List (Text × Text)} (h : CanFind settings) :
  (settings.map fun p => p.1 ++ '=' :: p.2).mapM setting? = some settings
  := by
  induction settings with
  | nil => rfl
  | cons p settings ih =>
    obtain ⟨hne, heq, -⟩ := h p List.mem_cons_self
    rw [List.map_cons, List.mapM_cons, setting?_append hne heq, ih h.tail]
    rfl

/-- The settings of a line are read back. -/
theorem settings?_lineOf {scenario : ScenarioName} (hscenario : scenario.IsField)
    {settings : List (Text × Text)} (hsettings : CanWrite settings) (hne : settings ≠ []) :
  settings? (lineOf scenario settings) = some (scenario, settings)
  := by
  obtain ⟨p, rest, rfl⟩ := List.exists_cons_of_ne_nil hne
  have hmapM := mapM_setting? hsettings.canFind
  rw [settings?, fields_lineOf hscenario hsettings]
  rw [List.map_cons] at hmapM ⊢
  dsimp only
  rw [hmapM]
  rfl

/-- The settings of a line are found again; without a scenario the first of them is taken for it. -/
theorem settings?_lineOf_of_canFind {scenario : ScenarioName}
    (hscenario : ∀ c ∈ scenario, Text.isGap c = false) {p q : Text × Text}
    {settings : List (Text × Text)} (h : CanFind (p :: q :: settings)) :
  settings? (lineOf scenario (p :: q :: settings)) =
    if scenario = [] then some (p.1 ++ '=' :: p.2, q :: settings)
    else some (scenario, p :: q :: settings)
  := by
  have hall := mapM_setting? h
  have htail := mapM_setting? h.tail
  rw [settings?, fields_lineOf_of_canFind scenario h, Text.fields_eq_of_isGap hscenario]
  simp only [List.map_cons] at hall htail ⊢
  by_cases hnil : scenario = []
  · rw [if_pos hnil, if_pos hnil, List.nil_append]
    dsimp only
    rw [htail]
    rfl
  · rw [if_neg hnil, if_neg hnil, List.singleton_append]
    dsimp only
    rw [hall]
    rfl

theorem subject?_lineOf {scenario : ScenarioName} (hscenario : scenario.IsField)
    {settings : List (Text × Text)} (hsettings : CanWrite settings) (hne : settings ≠ []) :
  RoundLines.subject? (lineOf scenario settings) = some scenario
  := by
  obtain ⟨p, rest, rfl⟩ := List.exists_cons_of_ne_nil hne
  rw [RoundLines.subject?, fields_lineOf hscenario hsettings]
  rfl

/-- The keys of a line occur in it. -/
theorem key_infix_lineOf (scenario : ScenarioName) {settings : List (Text × Text)} {p : Text × Text}
    (hp : p ∈ settings) :
  p.1 ++ ['='] <:+: lineOf scenario settings
  := by
  obtain ⟨before, after, rfl⟩ := List.append_of_mem hp
  refine ⟨lineOf scenario before ++ [' '], p.2 ++ lineOf [] after, ?_⟩
  simp [lineOf]

/-- A written line is a line of a text. -/
theorem isLine_lineOf {scenario : ScenarioName} (hscenario : scenario.IsField)
    {settings : List (Text × Text)} (hsettings : CanWrite settings) :
  Text.IsLine (lineOf scenario settings)
  := by
  have hmem : ∀ c ∈ lineOf scenario settings, c ≠ '\n' ∧ c ≠ '\r' := by
    intro c hc
    rcases List.mem_append.1 hc with hc | hc
    · apply hscenario.ne_feed_and_return hc
    · obtain ⟨p, hp, hc⟩ := List.mem_flatMap.1 hc
      obtain ⟨hkey, -, hvalue⟩ := hsettings p hp
      rcases List.mem_cons.1 hc with rfl | hc
      · decide
      · apply (isField_setting hkey hvalue).ne_feed_and_return hc
  constructor
  · intro hfeed
    exact (hmem _ hfeed).1 rfl
  · intro hreturn
    exact (hmem _ (List.mem_of_getLast? hreturn)).2 rfl

end RoundLog

open RoundLog

theorem Decimal.isField_digits (n : Nat) :
  Text.IsField (digits n)
  := by
  apply Text.isField_of_isBlank (digits_ne_nil n)
  intro c hc
  apply Text.isBlank_of_isDigit (isDigit_of_mem_digits hc)

theorem Binary64.isField_fixed {x : Binary64} {t : Text} (hne : t ≠ [])
    (h : ∀ c ∈ t, c ∈ x.fixed 2) :
  Text.IsField t
  := by
  apply Text.isField_of_isBlank hne
  intro c hc
  apply (SheetRow.isFigure_of_mem_fixed (h c hc)).isBlank

theorem Binary64.fixed_ne_nil (x : Binary64) (places : Nat) :
  x.fixed places ≠ []
  := by
  cases x with
  | finite s u hu =>
    rw [fixed, withPoint]
    split <;> simp [Decimal.digits_ne_nil]
  | infinite s => simp [fixed]
  | nan s => simp [fixed]

/-! ### Load lines -/

namespace TrafficLine

variable {s : LoadSummary} {n : Nat} {x : Binary64} {scenario : ScenarioName}

/-- The settings of a load line. -/
def settings (n : Nat) (x : Binary64) (s : LoadSummary) : List (Text × Text) :=
  [("wrk_requests".toList, Decimal.digits n), ("wrk_rps".toList, (x.fixed 2).take rateWidth),
    ("wrk_p99".toList, s.p99.getD unknownLatency),
    ("wrk_latency_avg".toList, s.latencyAvg.getD unknownLatency)]

theorem write_eq_lineOf (hrequests : s.requests = some n) (hrps : s.rps = some x)
    (scenario : ScenarioName) :
  write scenario s = lineOf scenario (settings n x s)
  := by
  simp [write, lineOf, settings, hrequests, hrps, Decimal.signed_natCast]

theorem isField_getD {o : Option Text} (ho : ∀ t, o = some t → t.IsField) :
  Text.IsField (o.getD unknownLatency)
  := by
  cases o with
  | none => exact (by decide : Text.IsField unknownLatency)
  | some t => apply ho t rfl

theorem canWrite_settings (hp99 : ∀ t, s.p99 = some t → t.IsField)
    (haverage : ∀ t, s.latencyAvg = some t → t.IsField) :
  CanWrite (settings n x s)
  := by
  have hrate : Text.IsField ((x.fixed 2).take rateWidth) := by
    apply Binary64.isField_fixed (x := x)
    · simp [rateWidth, x.fixed_ne_nil]
    · intro c hc
      apply List.mem_of_mem_take hc
  simp only [CanWrite, settings, List.forall_mem_cons]
  refine ⟨⟨by decide, by decide, Decimal.isField_digits n⟩, ⟨by decide, by decide, hrate⟩,
    ⟨by decide, by decide, isField_getD hp99⟩, ⟨by decide, by decide, isField_getD haverage⟩, ?_⟩
  simp

/-- A written load line is read back but for its numbers. -/
theorem read?_lineOf (hscenario : scenario.IsField) (hsettings : CanWrite (settings n x s))
    (hn : n < 0x8000000000000000) :
  read? (lineOf scenario (settings n x s)) =
    (Numeral.unsigned? ((x.fixed 2).take rateWidth)).bind fun rps =>
      (Latency.microseconds? (s.p99.getD unknownLatency)).bind fun p99 =>
        (readAverage? (s.latencyAvg.getD unknownLatency)).bind fun latencyAvg =>
          some { scenario, requests := n, rps, p99, latencyAvg }
  := by
  have hrequests :
    lastValue? "wrk_requests".toList (settings n x s) = some (Decimal.digits n) := rfl
  have hrps : lastValue? "wrk_rps".toList (settings n x s) = some ((x.fixed 2).take rateWidth) := rfl
  have hp99 : lastValue? "wrk_p99".toList (settings n x s) = some (s.p99.getD unknownLatency) := rfl
  have haverage : lastValue? "wrk_latency_avg".toList (settings n x s) =
    some (s.latencyAvg.getD unknownLatency) := rfl
  rw [read?, settings?_lineOf hscenario hsettings (List.cons_ne_nil _ _)]
  simp only [Option.bind_eq_bind, Option.bind_some]
  rw [hrequests, hrps, hp99, haverage]
  simp only [Option.bind_some, Numeral.natural?_digits hn]

theorem isLoadLine_lineOf (hscenario : scenario.IsField) (hsettings : CanWrite (settings n x s)) :
  RoundLines.isLoadLine scenario (lineOf scenario (settings n x s)) = true
  := by
  have hmark : Text.occursIn RoundLines.loadMark (lineOf scenario (settings n x s)) = true := by
    apply Text.occursIn_iff.2
    apply key_infix_lineOf (p := ("wrk_rps".toList, (x.fixed 2).take rateWidth))
    simp [settings]
  rw [RoundLines.isLoadLine_eq, subject?_lineOf hscenario hsettings (List.cons_ne_nil _ _), hmark]
  simp

end TrafficLine

/-! ### Resource lines -/

namespace UsageLine

variable {cpu : Binary64} {rssKb : Nat} {scenario : ScenarioName}

/-- The settings of a resource line. -/
def settings (cpu : Binary64) (rssKb : Nat) : List (Text × Text) :=
  [("cpu_pct".toList, cpu.fixed 2), ("peak_rss_kb".toList, Decimal.digits rssKb)]

/-- A resource line is written in full if its numbers are not too long. -/
theorem write_eq_lineOf (hlength : (cpu.fixed 2).length + (Decimal.digits rssKb).length ≤ 73)
    (scenario : ScenarioName) :
  write scenario cpu rssKb = lineOf scenario (settings cpu rssKb)
  := by
  rw [write, List.take_of_length_le]
  · simp [lineOf, settings, Decimal.signed_natCast]
  · simp [usageWidth, Decimal.signed_natCast]
    omega

theorem canWrite_settings : CanWrite (settings cpu rssKb) := by
  have hcpu : Text.IsField (cpu.fixed 2) :=
    Binary64.isField_fixed (cpu.fixed_ne_nil 2) fun _ hc => hc
  simp only [CanWrite, settings, List.forall_mem_cons]
  refine ⟨⟨by decide, by decide, hcpu⟩, ⟨by decide, by decide, Decimal.isField_digits rssKb⟩, ?_⟩
  simp

/-- A written resource line is read back but for the processor time. -/
theorem read?_lineOf (hscenario : scenario.IsField) (hrss : rssKb < 0x8000000000000000) :
  read? (lineOf scenario (settings cpu rssKb)) =
    (Numeral.unsigned? (cpu.fixed 2)).map fun cpu => { scenario, cpu, rssKb }
  := by
  have hcpu : lastValue? "cpu_pct".toList (settings cpu rssKb) = some (cpu.fixed 2) := rfl
  have hrssKb :
    lastValue? "peak_rss_kb".toList (settings cpu rssKb) = some (Decimal.digits rssKb) := rfl
  rw [read?, settings?_lineOf hscenario canWrite_settings (List.cons_ne_nil _ _)]
  simp only [Option.bind_eq_bind, Option.bind_some]
  rw [hcpu, hrssKb]
  simp only [Option.bind_some, Numeral.natural?_digits hrss]
  cases Numeral.unsigned? (cpu.fixed 2) <;> rfl

/-- The settings of a resource line do not spell the mark of a load line. -/
theorem not_infix_settings : ¬RoundLines.loadMark <:+:
    "cpu_pct=".toList ++ cpu.fixed 2 ++ " peak_rss_kb=".toList ++ Decimal.digits rssKb := by
  intro hmark
  have hw := hmark.subset (show 'w' ∈ RoundLines.loadMark by decide)
  simp only [List.mem_append] at hw
  rcases hw with ((hw | hw) | hw) | hw
  · exact absurd hw (by decide)
  · rcases SheetRow.isFigure_of_mem_fixed hw with hdigit | hfigure
    · cases hdigit
    · exact absurd hfigure (by decide)
  · exact absurd hw (by decide)
  · cases Decimal.isDigit_of_mem_digits hw

theorem isUsageLine_lineOf (hscenario : scenario.IsField)
    (hmark : Text.occursIn RoundLines.loadMark scenario = false) (cpu : Binary64) (rssKb : Nat) :
  RoundLines.isLoadLine scenario (lineOf scenario (settings cpu rssKb)) = false
    ∧ RoundLines.isUsageLine scenario (lineOf scenario (settings cpu rssKb)) = true
  := by
  have hload : Text.occursIn RoundLines.loadMark (lineOf scenario (settings cpu rssKb)) = false := by
    apply Bool.eq_false_iff.2
    intro hoccurs
    have hline : lineOf scenario (settings cpu rssKb) = scenario ++ ' ' ::
        ("cpu_pct=".toList ++ cpu.fixed 2 ++ " peak_rss_kb=".toList ++ Decimal.digits rssKb) := by
      simp [lineOf, settings]
    rw [hline] at hoccurs
    rcases Text.infix_append_space (by decide) (Text.occursIn_iff.1 hoccurs) with hname | hrest
    · rw [Text.occursIn_iff.2 hname] at hmark
      cases hmark
    · exact not_infix_settings hrest
  have husage :
      Text.occursIn RoundLines.resourceMark (lineOf scenario (settings cpu rssKb)) = true := by
    apply Text.occursIn_iff.2
    apply key_infix_lineOf (p := ("cpu_pct".toList, cpu.fixed 2))
    simp [settings]
  rw [RoundLines.isLoadLine_eq, RoundLines.isUsageLine_eq,
    subject?_lineOf hscenario canWrite_settings (List.cons_ne_nil _ _), hload, husage]
  simp

end UsageLine

end PerfGate
