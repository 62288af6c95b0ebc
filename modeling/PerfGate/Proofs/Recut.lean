import PerfGate.Outcome
import PerfGate.Proofs.Config
import PerfGate.Proofs.Rounds.Loop
import PerfGate.Proofs.Stats
import PerfGate.Proofs.Verdict

/-!
# A recut against its own rounds

A recut records its rounds and writes their medians to a file.  When that file is read as a
baseline and the same rounds are held against it, the memory check holds.  The other three hold
exactly if the recorded number is on the lenient side of the median: the cells round to the
nearest hundredth, so a rate may be recorded above what was measured, and a latency or a
processor cost below.
-/

namespace PerfGate

namespace Trial

/-! ### What a recut records -/

variable {answer : Behaviour} {scenarios : List ScenarioName} {planned : Int} {disk : Disk}

/-- The history that a recut has after some rounds: all of them recorded, none scored. -/
def Recorded (scenarios : List ScenarioName) (rounds : List (Round Binary64))
    (h : History Binary64) : Prop :=
  h.Holds scenarios (numbered rounds) fun _ => []

/-- Whether histories that come of recording rounds are as described. -/
structure Describes (recorded : List (Round Binary64) → History Binary64 → Prop)
    (scenarios : List ScenarioName) : Prop where
  /-- The fresh history is. -/
  start : recorded [] (.start scenarios)
  /-- The scenarios stay those of the history. -/
  scenarios_eq : ∀ {rounds h}, recorded rounds h → h.scenarios = scenarios
  /-- A round that covers the scenarios is recorded, and the history is as described again. -/
  record : ∀ {rounds h round}, recorded rounds h → Covers round scenarios →
    ∃ h', h.record (rounds.length + 1) round = .ok h' ∧ recorded (rounds ++ [round]) h'

variable {recorded : List (Round Binary64) → History Binary64 → Prop}

theorem describes_recorded (hnodup : scenarios.Nodup) :
  Describes (Recorded scenarios) scenarios
  := by
  constructor
  · apply History.holds_start
  · intro rounds h hh
    apply hh.scenarios_eq
  · intro rounds h round hh hround
    obtain ⟨h', hrecord, hh'⟩ := hh.record hnodup (rounds.length + 1) hround
    rw [← numbered_concat] at hh'
    exact ⟨h', hrecord, hh'⟩

/-- One round of a recut leads from each stage to the next, or ends the run. -/
theorem advances_recutRound (hdescribes : Describes recorded scenarios) :
  Advances answer planned scenarios recorded disk (recutRound (source answer))
  := by
  intro rounds h t hstage
  apply (hstage.ends_announceRound _).bind
  rintro round t' ⟨hanswer, hcalls, hdisk⟩
  cases hlack : firstLacking? round scenarios with
  | some s =>
    rw [History.record_eq_error _ ((hdescribes.scenarios_eq hstage.recorded).symm ▸ hlack)]
    apply ends_fail
    use hstage.answered, .inr ⟨round, s, hanswer, hlack, rfl⟩
  | none =>
    have hround : Covers round scenarios := firstLacking?_eq_none_iff.1 hlack
    obtain ⟨h', hrecord, hh'⟩ := hdescribes.record hstage.recorded hround
    rw [hrecord]
    apply ends_pure
    use round
    constructor
    · apply hstage.answered.concat hanswer hround
    · apply hh'
    · rw [hcalls, List.length_append, List.length_singleton]
    · apply hdisk

/-- The first calls are answered with one list of rounds of a length at most. -/
theorem Answered.ext {rounds rounds' : List (Round Binary64)}
    (h : Answered answer planned scenarios rounds) (h' : Answered answer planned scenarios rounds')
    (hlength : rounds.length = rounds'.length) :
  rounds = rounds'
  := by
  apply List.ext_getElem hlength
  intro n hn hn'
  obtain ⟨hanswer, -⟩ := h n _ (List.getElem?_eq_getElem hn)
  obtain ⟨hanswer', -⟩ := h' n _ (List.getElem?_eq_getElem hn')
  apply Except.ok.inj (hanswer.symm.trans hanswer')

/-- A recut records all its planned rounds, or is broken by one of its calls. -/
theorem ends_recordRounds (answer : Behaviour) (hdescribes : Describes recorded scenarios)
    (hplanned : 0 ≤ planned) :
  Ends { disk } (recordRounds (source answer) scenarios planned)
    (fun h t => ∃ rounds, (rounds.length : Int) = planned
      ∧ Stage answer planned scenarios recorded disk rounds h t)
    (fun e t => ∃ rounds, (rounds.length : Int) < planned
      ∧ BrokenBehind answer planned scenarios disk rounds e t)
  := by
  have hstart : Stage answer planned scenarios recorded disk [] (.start scenarios) { disk } :=
    ⟨Answered.nil, hdescribes.start, rfl, rfl⟩
  have hle : ((List.length ([] : List (Round Binary64)) : Nat) : Int) + planned.toNat ≤ planned := by
    rw [List.length_nil]
    omega
  apply ((advances_recutRound hdescribes).ends_runPlanned hstart hle).mono
  · rintro h t ⟨rounds, hlength, hstage⟩
    rw [List.length_nil] at hlength
    refine ⟨rounds, ?_, hstage⟩
    omega
  · intro e t hbroken
    apply hbroken

/-- A sheet is written to its file and to no other, or the file cannot be written. -/
theorem ends_writeSheet (t : Trial) (path : Text) (d : BaselineSheet) :
  t.Ends (writeSheet path d)
    (fun _ t' => t.disk.sealed path = false ∧ t' = t.put path (some d.toText))
    (fun e t' => t.disk.sealed path = true ∧ e = .gate (BaselineError.notWritten path) ∧ t' = t)
  := by
  have hwrite : t.Ends
      (writeFile path d.toText >>= fun done =>
        if !done then fail (BaselineError.notWritten path) else pure ())
      (fun _ t' => t.disk.sealed path = false ∧ t' = t.put path (some d.toText))
      (fun e t' =>
        t.disk.sealed path = true ∧ e = .gate (BaselineError.notWritten path) ∧ t' = t) := by
    apply ends_writeFile_bind
    · intro hopen
      apply ends_pure
      use hopen
    · intro hsealed
      apply ends_fail
      use hsealed
  unfold writeSheet
  split
  · apply ends_createDirectories_bind
    apply hwrite
  · apply hwrite

/-- Where a recut stands that has recorded its rounds and could not write their sheet. -/
def Unwritten (answer : Behaviour) (planned : Int) (scenarios : List ScenarioName) (disk : Disk)
    (target : Text) (e : Failure) (t : Trial) : Prop :=
  disk.sealed target = true ∧ e = .gate (BaselineError.notWritten target)
    ∧ ∃ rounds, (rounds.length : Int) = planned ∧ Answered answer planned scenarios rounds
      ∧ t.calls = callsUpTo planned rounds.length ∧ t.disk = disk

/-- What a recut records, the medians it returns, and the file it leaves. -/
theorem ends_recutWith (answer : Behaviour) (hdescribes : Describes recorded scenarios)
    {c : Config} (run : RunMeta) (target : Text) (hplanned : 0 ≤ c.policy.plannedRounds) :
  Ends { disk } (recutWith (source answer) c scenarios run target)
    (fun d t => ∃ rounds h, (rounds.length : Int) = c.policy.plannedRounds
      ∧ Answered answer c.policy.plannedRounds scenarios rounds
      ∧ recorded rounds h
      ∧ d = BaselineSheet.snapshot h c run
      ∧ t.calls = callsUpTo c.policy.plannedRounds rounds.length
      ∧ disk.sealed target = false
      ∧ t.disk = disk.put target (some d.toText))
    (fun e t => (∃ rounds, (rounds.length : Int) < c.policy.plannedRounds
        ∧ BrokenBehind answer c.policy.plannedRounds scenarios disk rounds e t)
      ∨ Unwritten answer c.policy.plannedRounds scenarios disk target e t)
  := by
  unfold recutWith
  apply ((ends_recordRounds answer hdescribes hplanned).mono (fun _ _ h => h)
    fun _ _ h => .inl h).bind
  rintro h t ⟨rounds, hlength, hstage⟩
  have hwrite := ends_writeSheet t target (BaselineSheet.snapshot h c run)
  rw [hstage.disk_eq] at hwrite
  apply (hwrite.mono (fun _ _ h => h) ?_).bind
  · rintro _ t' ⟨hopen, rfl⟩
    apply ends_say_bind
    apply ends_pure
    refine ⟨rounds, h, hlength, hstage.answered, hstage.recorded, rfl, hstage.calls_eq, hopen, ?_⟩
    rw [disk_print, put, hstage.disk_eq]
  · rintro e t' ⟨hsealed, rfl, rfl⟩
    right
    use hsealed, rfl, rounds, hlength, hstage.answered, hstage.calls_eq, hstage.disk_eq

/-- A recut, and then a reading of the file that it wrote. -/
def recutAndRead (source : RoundProducer TrialRun) (c : Config) (scenarios : List ScenarioName)
    (run : RunMeta) (target : Text) : TrialRun (Baseline Binary64) := do
  let _ ← recutWith source c scenarios run target
  readBaseline target scenarios

/-- A baseline that is read after a recut is read from the text of a snapshot of all its
rounds. -/
theorem ends_recutAndRead (answer : Behaviour) (hnodup : scenarios.Nodup) {c : Config}
    (run : RunMeta) (target : Text) (hplanned : 0 ≤ c.policy.plannedRounds) :
  Ends { disk } (recutAndRead (source answer) c scenarios run target)
    (fun b _ => ∃ rounds h, (rounds.length : Int) = c.policy.plannedRounds
      ∧ Answered answer c.policy.plannedRounds scenarios rounds
      ∧ Recorded scenarios rounds h
      ∧ Baseline.ofText (BaselineSheet.snapshot h c run).toText scenarios = .ok b)
    (fun _ _ => True)
  := by
  unfold recutAndRead
  apply ((ends_recutWith answer (describes_recorded hnodup) run target hplanned).mono
    (fun _ _ h => h) fun _ _ _ => trivial).bind
  rintro d t ⟨rounds, h, hlength, hanswered, hrecorded, rfl, -, -, hdisk⟩
  have hcontent :
      t.disk.content target = some (BaselineSheet.snapshot h c run).toText := by
    rw [hdisk]
    apply Disk.content_put
  unfold readBaseline
  apply ends_isRegularFile_bind
  rw [hcontent]
  apply ends_readFile_bind
  rw [hcontent]
  apply ends_ofExcept
  · intro b hb
    use rounds, h, hlength, hanswered, hrecorded, hb
  · intros
    trivial

/-! ### The same rounds against the recut -/

/-- Whether the memory of a round is finite, above zero and within the limit. -/
def HasRoom (memoryLimitKb : Int) (m : Metrics Binary64) : Prop :=
  m.rss.isFinite = true ∧ Scalar.lt (.zero false) m.rss = true
    ∧ Scalar.le m.rss (Scalar.ofInt memoryLimitKb) = true

/-- The median of memory within the limit is within the limit. -/
theorem le_median_rss {rounds : List (Round Binary64)} (hne : rounds ≠ []) {memoryLimitKb : Int}
    (hlimit : memoryLimitKb < 0x8000000000000000) {s : ScenarioName}
    (hmemory : ∀ round ∈ rounds, ∃ m, Table.get? s round = some m ∧ HasRoom memoryLimitKb m) :
  Scalar.le (mediansOver s rounds).rss (Scalar.ofInt memoryLimitKb) = true
  := by
  have hvalues : ∀ x ∈ History.valuesOf s (·.rss) rounds, ∃ u hu, x = .finite false u hu ∧ 0 < u
      ∧ Scalar.le x (Scalar.ofInt memoryLimitKb) = true := by
    intro x hx
    obtain ⟨round, hround, hvalue⟩ := List.mem_filterMap.1 hx
    obtain ⟨m, hm, hfinite, hpos, hle⟩ := hmemory round hround
    rw [hm] at hvalue
    obtain rfl := Option.some.inj hvalue
    obtain ⟨u, hu, hrss, hpos⟩ := Binary64.exists_finite_of_lt hfinite hpos
    use u, hu, hrss, hpos, hle
  obtain ⟨x, hx⟩ : ∃ x, x ∈ History.valuesOf s (·.rss) rounds := by
    obtain ⟨round, hround⟩ := List.exists_mem_of_ne_nil rounds hne
    obtain ⟨m, hm, -⟩ := hmemory round hround
    use m.rss
    apply List.mem_filterMap.2
    use round, hround
    rw [hm]
    rfl
  obtain ⟨u, hu, rfl, hpos, hle⟩ := hvalues x hx
  obtain ⟨bound, hfits, hbound, hdouble⟩ := Binary64.exists_ofInt_eq hpos hlimit hle
  have hlimit : (Scalar.ofInt memoryLimitKb : Binary64) = .finite false bound hfits := hbound
  have hwithin : Binary64.Within bound (Stats.median (History.valuesOf s (·.rss) rounds)) := by
    apply Stats.within_median (List.ne_nil_of_mem hx) hfits.2 hdouble
    intro y hy
    obtain ⟨v, hv, rfl, -, hle⟩ := hvalues y hy
    rw [hlimit] at hle
    use v, hv, rfl, Binary64.le_finite_iff.1 hle
  obtain ⟨v, hv, hmedian, hle⟩ := hwithin
  have hrss : (mediansOver s rounds).rss = Stats.median (History.valuesOf s (·.rss) rounds) := rfl
  rw [hlimit, hrss, hmedian]
  apply Binary64.le_finite_iff.2 hle

/-- The checks of a scenario whose rounds are held against their own recut: each of them compares
a median with what a cell kept of it. -/
structure RecutChecks (m : Medians Binary64) (c : Checks) : Prop where
  /-- The rate holds if its cell was not rounded up. -/
  throughput_eq : c.throughput = Scalar.le (SheetRow.recordedRate m.rps) m.rps
  /-- The latency holds if its cell was not rounded down. -/
  latency_eq : c.latency = Scalar.le m.p99 (SheetRow.recordedLatency m.p99)
  /-- The processor cost holds if its cells do not make it less. -/
  cpuEfficiency_eq :
    c.cpuEfficiency = Scalar.le m.cpuCost (SheetRow.recordedCost m.cpu m.rps)
  /-- The memory holds. -/
  memory_eq : c.memory = true

/-- When rounds are recut, and held against what is read back from the recut, the memory of each
scenario holds, and its rate, latency and processor cost hold exactly if the recorded ones are
no stricter than the medians. -/
theorem recutChecks_of_recutAndRead (answer : Behaviour) (hnodup : scenarios.Nodup) {c : Config}
    {run : RunMeta} (hshown : ∀ t ∈ shownTexts c run, '|' ∉ t) (target : Text)
    {rounds : List (Round Binary64)} (hne : rounds ≠ [])
    (hlength : (rounds.length : Int) = c.policy.plannedRounds)
    (hanswer : Answered answer c.policy.plannedRounds scenarios rounds) {p : Policy Binary64}
    (hlimit : p.memoryLimitKb < 0x8000000000000000)
    (hmemory : ∀ s ∈ scenarios, ∀ round ∈ rounds,
      ∃ m, Table.get? s round = some m ∧ HasRoom p.memoryLimitKb m)
    {b : Baseline Binary64}
    (hread :
      (perform (recutAndRead (source answer) c scenarios run target) { disk }).1 = .ok b)
    {h : History Binary64} {outcomes : ScenarioName → List Bool}
    (hh : h.Holds scenarios (numbered rounds) outcomes) :
  ∃ v, finalVerdict h b p = .ok v
    ∧ List.Forall₂
        (fun s finding => finding.scenario = s
          ∧ RecutChecks (mediansOver s rounds) finding.checks)
        scenarios v.scenarios
  := by
  have hplanned : 0 ≤ c.policy.plannedRounds := by omega
  obtain ⟨-, rounds', h', hlength', hanswer', hrecorded, htext⟩ :=
    (ends_recutAndRead answer hnodup run target hplanned).exists_of_eq_ok hread
  obtain rfl : rounds' = rounds := hanswer'.ext hanswer (by omega)
  rw [← hrecorded.scenarios_eq] at htext
  obtain ⟨hcovers, hentries⟩ := BaselineSheet.eq_recorded_of_reload hshown htext
  rw [hrecorded.scenarios_eq] at hcovers hentries
  obtain ⟨v, hv, -, -, -, -, hfindings⟩ := exists_finalVerdict p (hh.scenarios_eq ▸ hcovers)
  rw [hh.scenarios_eq] at hfindings
  use v, hv
  apply List.forall₂_iff_zip.2
  use hfindings.length_eq
  intro s finding hmem
  have hs : s ∈ scenarios := (List.of_mem_zip hmem).1
  obtain ⟨e, he, rfl⟩ := (List.forall₂_iff_zip.1 hfindings).2 hmem
  obtain ⟨hrps, hp99, hcost⟩ := hentries s hs e he
  rw [hrecorded.medians_eq hs] at hrps hp99 hcost
  have hmedian := hh.medians_eq hs
  use rfl
  constructor
  · show Scalar.le e.rps (h.medians s).rps = _
    rw [hrps, hmedian]
  · show Scalar.le (h.medians s).p99 e.p99 = _
    rw [hp99, hmedian]
  · show Scalar.le (h.medians s).cpuCost e.cpuCost = _
    rw [hcost, hmedian]
  · show Scalar.le (h.medians s).rss (Scalar.ofInt p.memoryLimitKb) = true
    rw [hmedian]
    apply le_median_rss hne hlimit (hmemory s hs)

/-- What one scenario measures with a given p99 latency in microseconds. -/
def idleMetrics (p99 : Int) : Metrics Binary64 where
  rps := .ofInt 1000
  p99 := .ofInt p99
  cpu := .ofInt 45
  rss := .ofInt 5000

/-- A round of that scenario. -/
def idleRound (p99 : Int) : Round Binary64 := [("idle".toList, idleMetrics p99)]

/-- One planned round, and the standard settings apart from that. -/
def singleRound : Config where
  policy := { Policy.standard with plannedRounds := 1 }

/-- A run at the beginning of 1970. -/
def firstRun : RunMeta where
  date := (Moment.ofSeconds 0).shown
  fileStamp := (Moment.ofSeconds 0).stamp
  hostname := "host".toList
  revision := "v1".toList

/-- The baseline that is read back from a recut of one such round. -/
def idleRecut (p99 : Int) : Except Failure (Baseline Binary64) :=
  (perform (recutAndRead (source fun _ => .ok (idleRound p99)) singleRound ["idle".toList] firstRun
    "baseline.md".toList) {}).1

/-- The history of one such round. -/
theorem exists_holds_idleRound (p99 : Int) :
  ∃ h : History Binary64, h.Holds ["idle".toList] (numbered [idleRound p99]) fun _ => []
  := by
  have hcovers : Covers (idleRound p99) ["idle".toList] := by
    intro s hs
    obtain rfl := List.mem_singleton.1 hs
    rfl
  obtain ⟨h, -, hh⟩ := (History.holds_start ["idle".toList]).record (by decide) 1 hcovers
  use h
  apply hh

theorem recutChecks_of_recutAndRead_idle :
  idleRecut 1200 = .ok [("idle".toList, .ofMetrics (idleMetrics 1200))]
    ∧ ∃ h : History Binary64, h.Holds ["idle".toList] (numbered [idleRound 1200]) (fun _ => [])
      ∧ ∃ v, finalVerdict h [("idle".toList, .ofMetrics (idleMetrics 1200))] singleRound.policy
          = .ok v
        ∧ List.Forall₂
            (fun s finding => finding.scenario = s
              ∧ RecutChecks (mediansOver s [idleRound 1200]) finding.checks)
            ["idle".toList] v.scenarios
  := by
  have hread : idleRecut 1200 = .ok [("idle".toList, .ofMetrics (idleMetrics 1200))] := by
    decide +kernel
  obtain ⟨h, hh⟩ := exists_holds_idleRound 1200
  use hread, h, hh
  apply recutChecks_of_recutAndRead (fun _ => .ok (idleRound 1200)) (by decide)
    (bar_notMem_shownTexts (by decide +kernel)
      (show firstRun.date = (Moment.ofSeconds 0).shown from rfl))
    "baseline.md".toList (List.cons_ne_nil _ _) rfl ?_ (by decide) ?_ hread hh
  · apply Answered.nil.concat rfl
    intro s hs
    obtain rfl := List.mem_singleton.1 hs
    rfl
  · intro s hs round hround
    obtain rfl := List.mem_singleton.1 hs
    obtain rfl := List.mem_singleton.1 hround
    use idleMetrics 1200, rfl
    unfold HasRoom
    decide +kernel

/-- A round with a latency of 1004 microseconds, which a recut records as a millisecond, fails
against its own recut, although all its metrics are finite, above zero and within the limit. -/
theorem latency_of_recut_idle :
  (∀ metric ∈ [Metrics.rps, Metrics.p99, Metrics.cpu, Metrics.rss],
      (metric (idleMetrics 1004)).isFinite = true
        ∧ Scalar.lt (.zero false) (metric (idleMetrics 1004)) = true)
    ∧ HasRoom singleRound.policy.memoryLimitKb (idleMetrics 1004)
    ∧ idleRecut 1004 = .ok [("idle".toList, .ofMetrics (idleMetrics 1000))]
    ∧ ∃ h : History Binary64, h.Holds ["idle".toList] (numbered [idleRound 1004]) (fun _ => [])
      ∧ ∃ v, finalVerdict h [("idle".toList, .ofMetrics (idleMetrics 1000))] singleRound.policy
          = .ok v
        ∧ v.scenarios.map (·.checks.latency) = [false]
  := by
  have hmetrics : ∀ metric ∈ [Metrics.rps, Metrics.p99, Metrics.cpu, Metrics.rss],
      (metric (idleMetrics 1004)).isFinite = true
        ∧ Scalar.lt (.zero false) (metric (idleMetrics 1004)) = true := by
    decide +kernel
  have hroom : HasRoom singleRound.policy.memoryLimitKb (idleMetrics 1004) := by
    unfold HasRoom
    decide +kernel
  have hread : idleRecut 1004 = .ok [("idle".toList, .ofMetrics (idleMetrics 1000))] := by
    decide +kernel
  have hlatency :
      Scalar.le (mediansOver "idle".toList [idleRound 1004]).p99 (idleMetrics 1000).p99 = false := by
    decide +kernel
  have hcovers : Covers [("idle".toList, BaselineFigures.ofMetrics (idleMetrics 1000))]
      ["idle".toList] := by
    intro s hs
    obtain rfl := List.mem_singleton.1 hs
    rfl
  obtain ⟨h, hh⟩ := exists_holds_idleRound 1004
  rw [← hh.scenarios_eq] at hcovers
  obtain ⟨v, hv, -, -, -, -, hfindings⟩ := exists_finalVerdict singleRound.policy hcovers
  use hmetrics, hroom, hread, h, hh, v, hv
  rw [hh.scenarios_eq] at hfindings
  obtain ⟨finding, rest, ⟨base, hbase, rfl⟩, hrest, hv⟩ := List.forall₂_cons_left_iff.1 hfindings
  obtain rfl := List.forall₂_nil_left_iff.1 hrest
  obtain rfl := Option.some.inj hbase
  rw [← hh.medians_eq (List.mem_singleton_self _)] at hlatency
  rw [hv, List.map_singleton]
  apply congrArg (fun b => [b]) hlatency

end Trial

end PerfGate
