import Mathlib.Tactic.Use
import PerfGate.Sampler

/-!
# What a sampler reports

A sampler is started once and stopped once, and whatever else is asked of it changes nothing.  What
it reports is told by the readings alone: the processor time between the first ticks and the last
ones that are not zero, and the largest memory (`Usage.IsOf`).  A process that is gone gives no
readings or empty ones, so it does not matter when it goes, nor how often it is looked for
afterwards.
-/

namespace PerfGate

/-! ### Readings -/

/-- Whether a reading says nothing: the process is gone, or has ended and waits to be reaped. -/
def Reading.IsGone (r : Reading) : Prop := (r.ticks = none ∨ r.ticks = some 0) ∧ r.rssKb = none

/-- The last ticks other than zero among readings behind a first one, and its own if there are
none. -/
def finalTicks (first : Reading) (rs : List Reading) : Nat :=
  ((rs.filterMap (·.ticks)).filter (0 < ·)).getLast?.getD (first.ticks.getD 0)

/-- The memory in a first reading and in others behind it. -/
def memoryOf (first : Reading) (rs : List Reading) : List Int :=
  first.rssKb.getD 0 :: rs.filterMap (·.rssKb)

/-- Whether a usage is what readings amount to. -/
structure Usage.IsOf (u : Usage) (first : Reading) (rs : List Reading) (tickRate : Int)
    (wallSeconds : Binary64) : Prop where
  /-- The processor time goes from the first ticks to the last ones other than zero. -/
  cpu_eq : u.cpu = cpuShare (first.ticks.getD 0) (finalTicks first rs) tickRate wallSeconds
  /-- The memory is the largest one. -/
  max?_eq : (memoryOf first rs).max? = some u.rssKb

/-- Whether what is known is what readings say. -/
structure Readings.IsOf (s : Readings) (first : Reading) (rs : List Reading) : Prop where
  startTicks_eq : s.startTicks = first.ticks.getD 0
  lastTicks_eq : s.lastTicks = finalTicks first rs
  max?_eq : (memoryOf first rs).max? = some s.peakRssKb

theorem Readings.isOf_first (r : Reading) :
  (first r).IsOf r []
  where
  startTicks_eq := rfl
  lastTicks_eq := rfl
  max?_eq := rfl

theorem finalTicks_concat (first : Reading) (rs : List Reading) (r : Reading) :
  finalTicks first (rs ++ [r]) =
    match r.ticks with
    | some t => if 0 < t then t else finalTicks first rs
    | none => finalTicks first rs
  := by
  rw [finalTicks, List.filterMap_append, List.filter_append]
  cases hticks : r.ticks with
  | none => simp [hticks, finalTicks]
  | some t =>
    by_cases ht : 0 < t
    · simp [hticks, ht]
    · simp [hticks, ht, finalTicks]

theorem memoryOf_concat (first : Reading) (rs : List Reading) (r : Reading) :
  memoryOf first (rs ++ [r]) = memoryOf first rs ++ r.rssKb.toList
  := by
  rw [memoryOf, List.filterMap_append, memoryOf, List.cons_append]
  cases hrss : r.rssKb <;> simp [hrss]

theorem max?_concat {ns : List Int} {m : Int} (h : ns.max? = some m) (n : Int) :
  (ns ++ [n]).max? = some (max m n)
  := by
  cases ns with
  | nil => cases h
  | cons k ns =>
    rw [List.max?_cons', Option.some.injEq] at h
    rw [List.cons_append, List.max?_cons', List.foldl_append, h]
    rfl

/-- One more reading. -/
theorem Readings.IsOf.take {s : Readings} {first : Reading} {rs : List Reading} (h : s.IsOf first rs)
    (r : Reading) :
  (s.take r).IsOf first (rs ++ [r])
  where
  startTicks_eq := h.startTicks_eq
  lastTicks_eq := by
    rw [finalTicks_concat, ← h.lastTicks_eq]
    rfl
  max?_eq := by
    rw [memoryOf_concat]
    cases hrss : r.rssKb with
    | none =>
      rw [Option.toList_none, List.append_nil, h.max?_eq]
      simp [Readings.take, hrss]
    | some kb =>
      rw [Option.toList_some, max?_concat h.max?_eq]
      simp [Readings.take, hrss]

theorem finalTicks_append_of_isGone {first : Reading} {rs gone : List Reading}
    (h : ∀ r ∈ gone, r.IsGone) :
  finalTicks first (rs ++ gone) = finalTicks first rs
  := by
  have hnone : (gone.filterMap (·.ticks)).filter (0 < ·) = [] := by
    apply List.filter_eq_nil_iff.2
    intro t ht
    obtain ⟨r, hr, hticks⟩ := List.mem_filterMap.1 ht
    rcases (h r hr).1 with hno | hzero
    · rw [hno] at hticks
      cases hticks
    · rw [hzero] at hticks
      obtain rfl := Option.some.inj hticks
      simp
  rw [finalTicks, List.filterMap_append, List.filter_append, hnone, List.append_nil, finalTicks]

theorem memoryOf_append_of_isGone {first : Reading} {rs gone : List Reading}
    (h : ∀ r ∈ gone, r.IsGone) :
  memoryOf first (rs ++ gone) = memoryOf first rs
  := by
  have hnone : gone.filterMap (·.rssKb) = [] := by
    apply List.filterMap_eq_nil_iff.2
    intro r hr
    apply (h r hr).2
  rw [memoryOf, List.filterMap_append, hnone, List.append_nil, memoryOf]

/-- Readings of a process that is gone do not count. -/
theorem Usage.IsOf.of_append {u : Usage} {first : Reading} {rs gone : List Reading} {tickRate : Int}
    {wallSeconds : Binary64} (h : u.IsOf first (rs ++ gone) tickRate wallSeconds)
    (hgone : ∀ r ∈ gone, r.IsGone) :
  u.IsOf first rs tickRate wallSeconds
  where
  cpu_eq := by rw [h.cpu_eq, finalTicks_append_of_isGone hgone]
  max?_eq := by rw [← memoryOf_append_of_isGone hgone, h.max?_eq]

/-- No reading has more memory than is reported. -/
theorem Usage.IsOf.le_rssKb {u : Usage} {first : Reading} {rs : List Reading} {tickRate : Int}
    {wallSeconds : Binary64} (h : u.IsOf first rs tickRate wallSeconds) {r : Reading} {kb : Int}
    (hr : r ∈ first :: rs) (hkb : r.rssKb = some kb) :
  kb ≤ u.rssKb
  := by
  apply (List.max?_eq_some_iff.1 h.max?_eq).2
  rcases List.mem_cons.1 hr with rfl | hr
  · rw [memoryOf, hkb]
    apply List.mem_cons_self
  · apply List.mem_cons_of_mem _ (List.mem_filterMap.2 ⟨r, hr, hkb⟩)

/-! ### Processor time -/

namespace Binary64

/-- Whether a number has no minus: it is zero, above zero, or no number at all. -/
inductive HasNoMinus : Binary64 → Prop where
  | finite (u : Nat) (hu : FitsBinary64 u) : HasNoMinus (.finite false u hu)
  | infinite : HasNoMinus (.infinite false)
  | nan (s : Bool) : HasNoMinus (.nan s)

theorem hasNoMinus_ofRatio (num den : Nat) :
  (ofRatio false num den).HasNoMinus
  := by
  unfold ofRatio
  split
  · apply HasNoMinus.finite
  · apply HasNoMinus.infinite

theorem hasNoMinus_ofInt {n : Int} (hn : 0 ≤ n) :
  (ofInt n).HasNoMinus
  := by
  rw [ofInt, decide_eq_false (Int.not_lt.2 hn)]
  apply hasNoMinus_ofRatio

variable {a b : Binary64}

theorem HasNoMinus.mul (ha : a.HasNoMinus) (hb : b.HasNoMinus) :
  (a.mul b).HasNoMinus
  := by
  cases ha with
  | finite u hu =>
    cases hb with
    | finite v hv => apply hasNoMinus_ofRatio
    | infinite =>
      rw [Binary64.mul]
      split
      · apply HasNoMinus.nan
      · apply HasNoMinus.infinite
    | nan t => apply HasNoMinus.nan
  | infinite =>
    cases hb with
    | finite v hv =>
      rw [Binary64.mul]
      split
      · apply HasNoMinus.nan
      · apply HasNoMinus.infinite
    | infinite => apply HasNoMinus.infinite
    | nan t => apply HasNoMinus.nan
  | nan s => apply HasNoMinus.nan

theorem HasNoMinus.div (ha : a.HasNoMinus) (hb : b.HasNoMinus) :
  (a.div b).HasNoMinus
  := by
  cases ha with
  | finite u hu =>
    cases hb with
    | finite v hv =>
      rw [Binary64.div]
      split
      · split
        · apply HasNoMinus.nan
        · apply HasNoMinus.infinite
      · apply hasNoMinus_ofRatio
    | infinite => apply HasNoMinus.finite
    | nan t => apply HasNoMinus.nan
  | infinite =>
    cases hb with
    | finite v hv => apply HasNoMinus.infinite
    | infinite => apply HasNoMinus.nan
    | nan t => apply HasNoMinus.nan
  | nan s => apply HasNoMinus.nan

theorem HasNoMinus.not_lt_zero (h : a.HasNoMinus) :
  a.lt (.zero false) = false
  := by
  cases h with
  | finite u hu => simp [lt, zero]
  | infinite => rfl
  | nan s => rfl

/-- What is not at most zero has no minus. -/
theorem hasNoMinus_of_not_le (h : a.le (.zero false) = false) :
  a.HasNoMinus
  := by
  cases a with
  | finite s u hu =>
    cases s with
    | false => apply HasNoMinus.finite
    | true =>
      simp only [le, ordered, lt, zero, Bool.true_and, Bool.not_eq_false', decide_eq_true_eq,
        if_true, Bool.false_eq_true, if_false] at h
      omega
  | infinite s =>
    cases s with
    | false => apply HasNoMinus.infinite
    | true => cases h
  | nan s => apply HasNoMinus.nan

end Binary64

/-- Processor time is never negative. -/
theorem hasNoMinus_cpuShare (start stop : Nat) (tickRate : Int) (wallSeconds : Binary64) :
  (cpuShare start stop tickRate wallSeconds).HasNoMinus
  := by
  unfold cpuShare
  split
  · apply Binary64.HasNoMinus.finite
  · rename_i h
    simp only [Bool.or_eq_true, decide_eq_true_eq, not_or, Int.not_le, Bool.not_eq_true] at h
    obtain ⟨⟨-, hrate⟩, hwall⟩ := h
    have hticks : (Binary64.ofInt (stop - start : Nat)).HasNoMinus :=
      Binary64.hasNoMinus_ofInt (Int.natCast_nonneg _)
    apply ((hticks.div _).mul _).div (Binary64.hasNoMinus_of_not_le hwall)
    · apply Binary64.hasNoMinus_ofInt (Int.le_of_lt hrate)
    · apply Binary64.hasNoMinus_ofInt (by decide)

/-! ### Runs -/

namespace Sampler

/-- What is asked of a sampler, with the reading that it takes. -/
inductive Call where
  | start (r : Reading)
  | poll (r : Reading)
  | stop (r : Reading) (tickRate : Int) (wallSeconds : Binary64)

/-- Whether a sampler is asked to stop. -/
def Call.isStop : Call → Bool
  | .stop _ _ _ => true
  | _ => false

/-- The reading of a poll. -/
def Call.polled? : Call → Option Reading
  | .poll r => some r
  | _ => none

/-- What the stops among some calls report. -/
def reports (s : Sampler) : List Call → List Usage
  | [] => []
  | .start r :: cs => reports (s.start r) cs
  | .poll r :: cs => reports (s.poll r) cs
  | .stop r tickRate wallSeconds :: cs =>
    let (u, s) := s.stop r tickRate wallSeconds
    u :: reports s cs

/-- Whatever is asked of it, a stopped sampler goes on to report what it reported. -/
theorem reports_of_result {s : Sampler} {u : Usage} (h : s.result = some u) (cs : List Call) :
  s.reports cs = List.replicate (cs.countP (·.isStop)) u
  := by
  induction cs generalizing s with
  | nil => rfl
  | cons c cs ih =>
    cases c with
    | start r =>
      have hstart : (s.start r).result = some u := by
        rw [start, h]
        simp [h]
      rw [reports, ih hstart]
      rfl
    | poll r =>
      have hpoll : (s.poll r).result = some u := by
        unfold poll
        split
        · apply h
        · apply h
      rw [reports, ih hpoll]
      rfl
    | stop r tickRate wallSeconds =>
      have hstop : s.stop r tickRate wallSeconds = (u, s) := by
        rw [stop, h]
      rw [reports, hstop, List.countP_cons_of_pos rfl, List.replicate_succ, ← ih h]

/-- Between its start and its stop a sampler takes the readings of the polls, and nothing else
changes what it reports in the end. -/
theorem exists_reports_eq {s : Sampler} {first : Reading} {rs : List Reading}
    (hrunning : s.running = true) (hresult : s.result = none) (hs : s.readings.IsOf first rs)
    {during : List Call} (hduring : ∀ c ∈ during, c.isStop = false) (last : Reading)
    (tickRate : Int) (wallSeconds : Binary64) (later : List Call) :
  ∃ u, s.reports (during ++ .stop last tickRate wallSeconds :: later) =
      List.replicate (1 + later.countP (·.isStop)) u
    ∧ u.IsOf first (rs ++ during.filterMap (·.polled?) ++ [last]) tickRate wallSeconds
  := by
  induction during generalizing s rs with
  | nil =>
    have htake := hs.take last
    rw [List.nil_append, List.filterMap_nil, List.append_nil, reports, stop, hresult]
    dsimp only
    rw [reports_of_result rfl]
    refine ⟨_, by rw [Nat.add_comm, List.replicate_succ], ?_⟩
    constructor
    · show cpuShare _ _ _ _ = _
      rw [htake.startTicks_eq, htake.lastTicks_eq]
    · apply htake.max?_eq
  | cons c during ih =>
    obtain ⟨hc, hrest⟩ := List.forall_mem_cons.1 hduring
    cases c with
    | start r =>
      have hstart : s.start r = s := by
        rw [start, hrunning]
        rfl
      rw [List.cons_append, reports, hstart]
      apply ih hrunning hresult hs hrest
    | poll r =>
      have hpoll : s.poll r = { s with readings := s.readings.take r } := by
        rw [poll, if_pos hrunning]
      rw [List.cons_append, reports, hpoll]
      have htake := ih (s := { s with readings := s.readings.take r }) hrunning hresult (hs.take r)
        hrest
      rw [List.append_assoc rs, List.singleton_append] at htake
      apply htake
    | stop r tickRate wallSeconds => cases hc

/-- A sampler that is started, polled and started again any number of times, and then stopped,
reports what its readings amount to, at that stop and at each later one.  It is no less memory than
any reading shows and no processor time below zero, and from the time when the process is gone the
readings do not count. -/
theorem exists_reports (first last : Reading) {during : List Call}
    (hduring : ∀ c ∈ during, c.isStop = false) (tickRate : Int) (wallSeconds : Binary64)
    (later : List Call) :
  ∃ u, reports {} (.start first :: during ++ .stop last tickRate wallSeconds :: later) =
      List.replicate (1 + later.countP (·.isStop)) u
    ∧ u.IsOf first (during.filterMap (·.polled?) ++ [last]) tickRate wallSeconds
    ∧ (∀ rs gone, during.filterMap (·.polled?) ++ [last] = rs ++ gone → (∀ r ∈ gone, r.IsGone) →
      u.IsOf first rs tickRate wallSeconds)
    ∧ (∀ r ∈ first :: (during.filterMap (·.polled?) ++ [last]), ∀ kb, r.rssKb = some kb →
      kb ≤ u.rssKb)
    ∧ u.cpu.lt (.zero false) = false
  := by
  obtain ⟨u, hreports, hu⟩ := exists_reports_eq (s := start {} first) rfl rfl
    (Readings.isOf_first first) hduring last tickRate wallSeconds later
  rw [List.nil_append] at hu
  use u, hreports, hu
  refine ⟨?_, ?_, ?_⟩
  · intro rs gone heq hgone
    rw [heq] at hu
    apply hu.of_append hgone
  · intro r hr kb hkb
    apply hu.le_rssKb hr hkb
  · rw [hu.cpu_eq]
    apply (hasNoMinus_cpuShare _ _ _ _).not_lt_zero

/-- Calls of a sampler whose process ends between two polls. -/
def passing : List Call :=
  [.poll ⟨some 60, some 3072⟩, .start ⟨some 999, some 9999⟩, .poll ⟨some 110, some 2900⟩,
    .poll ⟨some 0, none⟩, .poll ⟨none, none⟩]

/-- A hundred ticks in two seconds, and the larger memory, at all three stops. -/
theorem exists_reports_passing :
  ∃ u, reports {} (.start ⟨some 10, none⟩ :: passing ++ .stop ⟨none, none⟩ 100 (.ofInt 2) ::
      [.stop ⟨some 500, some 5000⟩ 100 (.ofInt 9), .start ⟨some 1, some 1⟩,
        .stop ⟨some 700, none⟩ 100 (.ofInt 10)]) = [u, u, u]
    ∧ u.cpu = .ofInt 50 ∧ u.rssKb = 3072
  := by
  have hduring : ∀ c ∈ passing, c.isStop = false := by decide
  obtain ⟨u, hreports, -, hgone, -, -⟩ := exists_reports ⟨some 10, none⟩ ⟨none, none⟩ hduring 100
    (.ofInt 2) [.stop ⟨some 500, some 5000⟩ 100 (.ofInt 9), .start ⟨some 1, some 1⟩,
      .stop ⟨some 700, none⟩ 100 (.ofInt 10)]
  have hu := hgone [⟨some 60, some 3072⟩, ⟨some 110, some 2900⟩]
    [⟨some 0, none⟩, ⟨none, none⟩, ⟨none, none⟩] rfl (by simp [Reading.IsGone])
  use u, hreports
  constructor
  · rw [hu.cpu_eq]
    decide +kernel
  · apply Option.some.inj
    rw [← hu.max?_eq]
    rfl

end Sampler

end PerfGate
