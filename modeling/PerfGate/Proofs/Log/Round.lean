import Mathlib.Data.List.Induction
import PerfGate.Log.Round
import PerfGate.Proofs.Fallible

/-!
# What a round log says

A log is read line by line into two tables, which are then joined.  The same round can be told
from the lines alone (`Round.ofLines`): each scenario has its metrics from its last load line and
its last resource line, unless some of its lines cannot be read or it lacks one of the two.  So
only the lines of each scenario matter, and their order; how the lines of the scenarios are mixed
does not, nor what else is in the log.
-/

namespace PerfGate

namespace RoundLines

/-! ### The kinds of lines -/

/-- Whether a scenario is the first of at least two fields of a line. -/
def isOf (s : ScenarioName) (line : Text) : Bool :=
  (Text.fields line).head? == some s && decide (2 ≤ (Text.fields line).length)

/-- Whether a line is a load line of a scenario. -/
def isLoadLine (s : ScenarioName) (line : Text) : Bool :=
  isOf s line && Text.occursIn loadMark line

/-- Whether a line is a resource line of a scenario. -/
def isUsageLine (s : ScenarioName) (line : Text) : Bool :=
  isOf s line && !Text.occursIn loadMark line && Text.occursIn resourceMark line

/-- Whether a line says something of a scenario. -/
def isAbout (s : ScenarioName) (line : Text) : Bool := isLoadLine s line || isUsageLine s line

/-! ### What the lines say -/

/-- The error of a line that is about a scenario and cannot be read. -/
def faultOf? (s : ScenarioName) (line : Text) : Option RoundError :=
  if isLoadLine s line && (TrafficLine.read? line).isNone then some (.loadUnreadable s line)
  else if isUsageLine s line && (UsageLine.read? line).isNone then
    some (.resourcesUnreadable s line)
  else none

/-- The error of a line that is about one of the wanted scenarios and cannot be read. -/
def fault? (wanted : List ScenarioName) (line : Text) : Option RoundError :=
  wanted.findSome? fun s => faultOf? s line

/-- The error of a scenario that lacks a load line or a resource line. -/
def lack? (ls : List Text) (s : ScenarioName) : Option RoundError :=
  if !ls.any (isLoadLine s) then some (.loadMissing s)
  else if !ls.any (isUsageLine s) then some (.resourcesMissing s)
  else none

/-- The metrics that the last load line and the last resource line of a scenario hold. -/
def figures? (ls : List Text) (s : ScenarioName) : Option (Metrics Binary64) := do
  let load ← (ls.filter (isLoadLine s)).getLast?
  let usage ← (ls.filter (isUsageLine s)).getLast?
  let l ← TrafficLine.read? load
  let u ← UsageLine.read? usage
  some { rps := l.rps, p99 := l.p99, cpu := u.cpu, rss := .ofInt u.rssKb }

end RoundLines

open RoundLines

/-- The round that lines tell of the wanted scenarios: the error of the first line that cannot be
read, or else of the first scenario that lacks a line, or else the metrics of each scenario. -/
def Round.ofLines (ls : List Text) (wanted : List ScenarioName) :
    Except RoundError (Round Binary64) :=
  match (ls.findSome? (fault? wanted)).or (wanted.findSome? (lack? ls)) with
  | some e => .error e
  | none =>
    .ok (wanted.foldl
      (fun round s => (figures? ls s).elim round fun m => Table.set s m round) [])

/-! ### One line -/

namespace RoundLines

theorem isOf_eq (s : ScenarioName) (line : Text) :
  isOf s line = (subject? line == some s)
  := by
  unfold isOf subject?
  rcases Text.fields line with _ | ⟨name, _ | ⟨field, rest⟩⟩
  · rfl
  · simp
  · simp

theorem isLoadLine_eq (s : ScenarioName) (line : Text) :
  isLoadLine s line = (subject? line == some s && Text.occursIn loadMark line)
  := by
  rw [isLoadLine, isOf_eq]

theorem isUsageLine_eq (s : ScenarioName) (line : Text) :
  isUsageLine s line =
    (subject? line == some s && !Text.occursIn loadMark line && Text.occursIn resourceMark line)
  := by
  rw [isUsageLine, isOf_eq]

theorem faultOf?_of_ne {s : ScenarioName} {line : Text} (h : subject? line ≠ some s) :
  faultOf? s line = none
  := by
  simp [faultOf?, isLoadLine_eq, isUsageLine_eq, h]

theorem findSome?_of_mem {β : Type} {f : ScenarioName → Option β} {wanted : List ScenarioName}
    {n : ScenarioName} (hn : n ∈ wanted) (hf : ∀ s, s ≠ n → f s = none) :
  wanted.findSome? f = f n
  := by
  induction wanted with
  | nil => cases hn
  | cons s wanted ih =>
    rw [List.findSome?_cons]
    by_cases hs : s = n
    · subst hs
      cases hfs : f s with
      | some b => rfl
      | none =>
        apply List.findSome?_eq_none_iff.2
        intro m _
        by_cases hm : m = s
        · rw [hm, hfs]
        · apply hf m hm
    · rw [hf s hs]
      apply ih
      rcases List.mem_cons.1 hn with rfl | hn
      · exact absurd rfl hs
      · apply hn

/-- Only the scenario that a line is about can be at fault. -/
theorem fault?_eq (wanted : List ScenarioName) (line : Text) :
  fault? wanted line = ((subject? line).filter wanted.contains).bind fun n => faultOf? n line
  := by
  cases hsubject : subject? line with
  | none =>
    apply List.findSome?_eq_none_iff.2
    intro s _
    apply faultOf?_of_ne
    rw [hsubject]
    simp
  | some n =>
    by_cases hn : n ∈ wanted
    · rw [Option.filter_some_pos (List.contains_iff_mem.2 hn), Option.bind_some]
      apply findSome?_of_mem hn
      intro s hs
      apply faultOf?_of_ne
      rw [hsubject]
      simpa using hs.symm
    · rw [Option.filter_some_neg (by simpa using hn), Option.bind_none]
      apply List.findSome?_eq_none_iff.2
      intro s hs
      apply faultOf?_of_ne
      rw [hsubject]
      rintro ⟨rfl⟩
      exact hn hs

/-- A line at fault ends the reading; any other line is taken in, and replaces what it is about. -/
theorem enter_spec (wanted : List ScenarioName) (r : RoundLines) (line : Text) :
  (∀ e, fault? wanted line = some e → enter wanted r line = .error e)
    ∧ (fault? wanted line = none → ∃ r', enter wanted r line = .ok r' ∧ ∀ s ∈ wanted,
      Table.get? s r'.loads =
          (if isLoadLine s line then TrafficLine.read? line else Table.get? s r.loads)
        ∧ Table.get? s r'.resources =
          (if isUsageLine s line then UsageLine.read? line else Table.get? s r.resources))
  := by
  rw [fault?_eq]
  unfold enter
  cases hname : (subject? line).filter wanted.contains with
  | none =>
    have hsubject : ∀ s ∈ wanted, subject? line ≠ some s := by
      intro s hs hsubject
      simp [hsubject, hs] at hname
    use nofun
    intro _
    use r, rfl
    intro s hs
    simp [isLoadLine_eq, isUsageLine_eq, hsubject s hs]
  | some n =>
    have hsubject : subject? line = some n := Option.eq_some_of_filter_eq_some hname
    dsimp only
    by_cases hload : Text.occursIn loadMark line = true
    · rw [if_pos hload]
      cases hread : TrafficLine.read? line with
      | none => simp [faultOf?, isLoadLine_eq, hsubject, hload, hread]
      | some l =>
        constructor
        · simp [faultOf?, isLoadLine_eq, isUsageLine_eq, hsubject, hload, hread]
        · intro _
          refine ⟨_, rfl, fun s _ => ?_⟩
          simp [isLoadLine_eq, isUsageLine_eq, hsubject, hload, Table.get?_set, eq_comm (a := n)]
    · rw [if_neg hload]
      by_cases husage : Text.occursIn resourceMark line = true
      · rw [if_pos husage]
        cases hread : UsageLine.read? line with
        | none => simp [faultOf?, isLoadLine_eq, isUsageLine_eq, hsubject, hload, husage, hread]
        | some u =>
          constructor
          · simp [faultOf?, isLoadLine_eq, isUsageLine_eq, hsubject, hload, hread]
          · intro _
            refine ⟨_, rfl, fun s _ => ?_⟩
            simp [isLoadLine_eq, isUsageLine_eq, hsubject, hload, husage, Table.get?_set,
              eq_comm (a := n)]
      · rw [if_neg husage]
        simp [faultOf?, isLoadLine_eq, isUsageLine_eq, hload, husage]

/-! ### All lines -/

/-- The last line of some kind, once one more line was read. -/
theorem getLast?_filter_concat (p : Text → Bool) (ls : List Text) (line : Text) :
  ((ls ++ [line]).filter p).getLast? = if p line then some line else (ls.filter p).getLast?
  := by
  rw [List.filter_append]
  by_cases hp : p line = true
  · simp [hp]
  · simp [hp]

theorem any_eq_isSome_getLast?_filter (p : Text → Bool) (ls : List Text) :
  ls.any p = (ls.filter p).getLast?.isSome
  := by
  rw [Bool.eq_iff_iff, List.getLast?_isSome]
  simp

/-- The first line at fault ends the reading; without one, the tables hold for each wanted scenario
what its last lines say. -/
theorem foldlM_enter_spec (wanted : List ScenarioName) (ls : List Text) :
  (∀ e, ls.findSome? (fault? wanted) = some e → ls.foldlM (enter wanted) {} = .error e)
    ∧ (ls.findSome? (fault? wanted) = none → ∃ r, ls.foldlM (enter wanted) {} = .ok r
      ∧ ∀ s ∈ wanted,
        Table.get? s r.loads = (ls.filter (isLoadLine s)).getLast?.bind TrafficLine.read?
          ∧ Table.get? s r.resources = (ls.filter (isUsageLine s)).getLast?.bind UsageLine.read?)
  := by
  induction ls using List.reverseRecOn with
  | nil =>
    use nofun
    intro _
    use {}, rfl
    intro s _
    constructor <;> rfl
  | append_singleton ls line ih =>
    obtain ⟨ihfault, ihrun⟩ := ih
    rw [List.findSome?_append, List.foldlM_append]
    cases hls : ls.findSome? (fault? wanted) with
    | some e =>
      rw [ihfault e hls]
      simp [bind, Except.bind]
    | none =>
      obtain ⟨r, hr, htables⟩ := ihrun hls
      obtain ⟨hfault, hline⟩ := enter_spec wanted r line
      rw [hr]
      show (∀ e, _ → (enter wanted r line >>= pure) = _)
        ∧ (_ → ∃ r', (enter wanted r line >>= pure) = _ ∧ _)
      rw [bind_pure, Option.none_or, List.findSome?_singleton]
      use hfault
      intro hnone
      obtain ⟨r', hr', htables'⟩ := hline hnone
      use r', hr'
      intro s hs
      obtain ⟨hloads, hresources⟩ := htables s hs
      rw [(htables' s hs).1, (htables' s hs).2, getLast?_filter_concat, getLast?_filter_concat,
        hloads, hresources]
      constructor
      · split <;> rfl
      · split <;> rfl

theorem exists_load_of_faultOf? {s : ScenarioName} {line : Text} (hload : isLoadLine s line = true)
    (hfault : faultOf? s line = none) :
  ∃ l, TrafficLine.read? line = some l
  := by
  apply Option.ne_none_iff_exists'.1
  intro hread
  simp [faultOf?, hload, hread] at hfault

theorem exists_usage_of_faultOf? {s : ScenarioName} {line : Text}
    (husage : isUsageLine s line = true) (hfault : faultOf? s line = none) :
  ∃ u, UsageLine.read? line = some u
  := by
  have hload : isLoadLine s line = false := by
    simp only [isUsageLine_eq, Bool.and_eq_true, Bool.not_eq_true'] at husage
    simp [isLoadLine_eq, husage.1.2]
  apply Option.ne_none_iff_exists'.1
  intro hread
  simp [faultOf?, hload, husage, hread] at hfault

/-- Without a line at fault, a wanted scenario either lacks a line or has its metrics. -/
theorem metrics_spec {wanted : List ScenarioName} {ls : List Text}
    (hfault : ls.findSome? (fault? wanted) = none) {s : ScenarioName} (hs : s ∈ wanted)
    {r : RoundLines}
    (hloads : Table.get? s r.loads = (ls.filter (isLoadLine s)).getLast?.bind TrafficLine.read?)
    (hresources :
      Table.get? s r.resources = (ls.filter (isUsageLine s)).getLast?.bind UsageLine.read?) :
  (∃ e, lack? ls s = some e ∧ r.metrics s = .error e)
    ∨ ∃ m, lack? ls s = none ∧ figures? ls s = some m ∧ r.metrics s = .ok m
  := by
  have hreadable : ∀ line ∈ ls, faultOf? s line = none := fun line hline =>
    List.findSome?_eq_none_iff.1 (List.findSome?_eq_none_iff.1 hfault line hline) s hs
  unfold metrics lack? figures?
  rw [hloads, hresources, any_eq_isSome_getLast?_filter, any_eq_isSome_getLast?_filter]
  cases hload : (ls.filter (isLoadLine s)).getLast? with
  | none => simp
  | some load =>
    obtain ⟨hmem, hisLoad⟩ := List.mem_filter.1 (List.mem_of_getLast? hload)
    obtain ⟨l, hl⟩ := exists_load_of_faultOf? hisLoad (hreadable load hmem)
    cases husage : (ls.filter (isUsageLine s)).getLast? with
    | none => simp [hl]
    | some usage =>
      obtain ⟨hmem', hisUsage⟩ := List.mem_filter.1 (List.mem_of_getLast? husage)
      obtain ⟨u, hu⟩ := exists_usage_of_faultOf? hisUsage (hreadable usage hmem')
      simp [hl, hu]

/-! ### The join -/

/-- Metrics that are computed scenario by scenario make a round, up to the first error. -/
theorem foldlM_set_eq {f : ScenarioName → Except RoundError (Metrics Binary64)}
    {error? : ScenarioName → Option RoundError} {value? : ScenarioName → Option (Metrics Binary64)}
    {todo : List ScenarioName}
    (hf : ∀ s ∈ todo, (∃ e, error? s = some e ∧ f s = .error e)
      ∨ ∃ m, error? s = none ∧ value? s = some m ∧ f s = .ok m) (round : Round Binary64) :
  todo.foldlM (fun round s => do pure (Table.set s (← f s) round)) round =
    match todo.findSome? error? with
    | some e => .error e
    | none =>
      .ok (todo.foldl (fun round s => (value? s).elim round fun m => Table.set s m round) round)
  := by
  induction todo generalizing round with
  | nil => rfl
  | cons s todo ih =>
    rw [List.foldlM_cons, List.findSome?_cons, List.foldl_cons]
    rcases hf s List.mem_cons_self with ⟨e, he, hfs⟩ | ⟨m, he, hm, hfs⟩
    · rw [hfs, he]
      rfl
    · rw [hfs, he, hm]
      apply ih fun n hn => hf n (List.mem_cons_of_mem s hn)

/-- A round has the metrics of the scenarios that it was made of. -/
theorem get?_foldl_elim {value? : ScenarioName → Option (Metrics Binary64)}
    {todo : List ScenarioName} (hvalue : ∀ s ∈ todo, (value? s).isSome = true)
    (round : Round Binary64) (n : ScenarioName) :
  Table.get? n
      (todo.foldl (fun round s => (value? s).elim round fun m => Table.set s m round) round) =
    if n ∈ todo then value? n else Table.get? n round
  := by
  induction todo generalizing round with
  | nil => simp
  | cons s todo ih =>
    obtain ⟨m, hm⟩ := Option.isSome_iff_exists.1 (hvalue s List.mem_cons_self)
    rw [List.foldl_cons, ih fun n hn => hvalue n (List.mem_cons_of_mem s hn), hm]
    show (if n ∈ todo then value? n else Table.get? n (Table.set s m round)) = _
    rw [Table.get?_set]
    by_cases hn : n = s
    · simp [hn, hm]
    · simp [hn]

/-! ### The lines that matter -/

theorem filter_isAbout (s : ScenarioName) (ls : List Text) :
  (ls.filter (isAbout s)).filter (isLoadLine s) = ls.filter (isLoadLine s)
    ∧ (ls.filter (isAbout s)).filter (isUsageLine s) = ls.filter (isUsageLine s)
  := by
  rw [List.filter_filter, List.filter_filter]
  constructor
  · congr 1
    funext line
    cases h : isLoadLine s line <;> simp [isAbout, h]
  · congr 1
    funext line
    cases h : isUsageLine s line <;> simp [isAbout, h]

/-- What a scenario lacks is up to the lines about it. -/
theorem lack?_filter_isAbout (s : ScenarioName) (ls : List Text) :
  lack? (ls.filter (isAbout s)) s = lack? ls s
  := by
  simp only [lack?, any_eq_isSome_getLast?_filter, filter_isAbout]

/-- The metrics of a scenario are up to the lines about it. -/
theorem figures?_filter_isAbout (s : ScenarioName) (ls : List Text) :
  figures? (ls.filter (isAbout s)) s = figures? ls s
  := by
  simp only [figures?, filter_isAbout]

theorem faultOf?_of_not_isAbout {s : ScenarioName} {line : Text} (h : isAbout s line = false) :
  faultOf? s line = none
  := by
  rw [isAbout, Bool.or_eq_false_iff] at h
  simp [faultOf?, h.1, h.2]

theorem findSome?_filter_of_eq_none {β γ : Type} {p : β → Bool} {f : β → Option γ} {xs : List β}
    (h : ∀ x, p x = false → f x = none) :
  (xs.filter p).findSome? f = xs.findSome? f
  := by
  induction xs with
  | nil => rfl
  | cons x xs ih =>
    rw [List.filter_cons, List.findSome?_cons]
    split
    · rw [List.findSome?_cons, ih]
    · rename_i hp
      rw [ih, h x (Bool.eq_false_iff.2 hp)]

theorem findSome?_congr {β γ : Type} {f g : β → Option γ} {xs : List β}
    (h : ∀ x ∈ xs, f x = g x) :
  xs.findSome? f = xs.findSome? g
  := by
  induction xs with
  | nil => rfl
  | cons x xs ih =>
    rw [List.findSome?_cons, List.findSome?_cons, h x List.mem_cons_self,
      ih fun z hz => h z (List.mem_cons_of_mem x hz)]

/-- There is no line at fault exactly if none of the lines about a wanted scenario is. -/
theorem findSome?_fault?_eq_none_iff {wanted : List ScenarioName} {ls : List Text} :
  ls.findSome? (fault? wanted) = none ↔
    ∀ s ∈ wanted, (ls.filter (isAbout s)).findSome? (faultOf? s) = none
  := by
  have hfilter : ∀ s, (ls.filter (isAbout s)).findSome? (faultOf? s) = ls.findSome? (faultOf? s) :=
    fun _ => findSome?_filter_of_eq_none fun _ => faultOf?_of_not_isAbout
  simp only [hfilter, List.findSome?_eq_none_iff, fault?]
  constructor
  · intro h s hs line hline
    apply h line hline s hs
  · intro h line hline s hs
    apply h s hs line hline

end RoundLines

namespace Round

/-- A round log says what its lines tell. -/
theorem ofText_eq_ofLines (t : Text) (wanted : List ScenarioName) :
  ofText t wanted = ofLines (Text.lines t) wanted
  := by
  obtain ⟨hfault, hrun⟩ := foldlM_enter_spec wanted (Text.lines t)
  unfold ofText ofLines
  cases hfirst : (Text.lines t).findSome? (fault? wanted) with
  | some e =>
    rw [hfault e hfirst]
    rfl
  | none =>
    obtain ⟨r, hr, htables⟩ := hrun hfirst
    rw [hr]
    show wanted.foldlM _ [] = _
    rw [foldlM_set_eq fun s hs => metrics_spec hfirst hs (htables s hs).1 (htables s hs).2]
    rfl

theorem ofLines_of_fault {ls : List Text} {wanted : List ScenarioName} {e : RoundError}
    (h : ls.findSome? (fault? wanted) = some e) :
  ofLines ls wanted = .error e
  := by
  rw [ofLines, h]
  rfl

/-- A load line and a resource line of a scenario tell its metrics, if they can be read. -/
theorem ofLines_pair {s : ScenarioName} {load usage : Text} (hload : isLoadLine s load = true)
    (hother : isLoadLine s usage = false) (husage : isUsageLine s usage = true) :
  ofLines [load, usage] [s] =
    match TrafficLine.read? load, UsageLine.read? usage with
    | none, _ => .error (.loadUnreadable s load)
    | some _, none => .error (.resourcesUnreadable s usage)
    | some l, some u =>
      .ok [(s, { rps := l.rps, p99 := l.p99, cpu := u.cpu, rss := .ofInt u.rssKb })]
  := by
  have hother' : isUsageLine s load = false := by
    simp only [isLoadLine_eq, Bool.and_eq_true] at hload
    simp [isUsageLine_eq, hload.2]
  cases hl : TrafficLine.read? load with
  | none => simp [ofLines, fault?, faultOf?, hload, hl]
  | some l =>
    cases hu : UsageLine.read? usage with
    | none => simp [ofLines, fault?, faultOf?, hother, hother', husage, hl, hu]
    | some u =>
      simp [ofLines, fault?, faultOf?, lack?, figures?, hload, hother, hother', husage, hl, hu,
        Table.set]

/-- A round has exactly the wanted scenarios, each with its metrics. -/
theorem get?_of_ofLines {ls : List Text} {wanted : List ScenarioName} {round : Round Binary64}
    (h : ofLines ls wanted = .ok round) (s : ScenarioName) :
  (Table.has s round = true ↔ s ∈ wanted)
    ∧ (s ∈ wanted → Table.get? s round = figures? ls s)
  := by
  unfold ofLines at h
  cases hnone : (ls.findSome? (fault? wanted)).or (wanted.findSome? (lack? ls)) with
  | some e => simp [hnone] at h
  | none =>
    obtain ⟨hfault, hlack⟩ := Option.or_eq_none_iff.1 hnone
    obtain ⟨r, -, htables⟩ := (foldlM_enter_spec wanted ls).2 hfault
    have hfigures : ∀ n ∈ wanted, (figures? ls n).isSome = true := by
      intro n hn
      rcases metrics_spec hfault hn (htables n hn).1 (htables n hn).2 with
        ⟨e, he, -⟩ | ⟨m, -, hm, -⟩
      · simp [List.findSome?_eq_none_iff.1 hlack n hn] at he
      · simp [hm]
    rw [hnone] at h
    obtain rfl := Except.ok.inj h
    rw [Table.has, get?_foldl_elim hfigures]
    by_cases hs : s ∈ wanted
    · simp [hs, hfigures s hs]
    · simp [hs]

theorem ofLines_congr {ls ls' : List Text} {wanted : List ScenarioName}
    (hfault : ls'.findSome? (fault? wanted) = ls.findSome? (fault? wanted))
    (h : ∀ s ∈ wanted, ls'.filter (isAbout s) = ls.filter (isAbout s)) :
  ofLines ls' wanted = ofLines ls wanted
  := by
  have hlack : wanted.findSome? (lack? ls') = wanted.findSome? (lack? ls) := by
    apply findSome?_congr
    intro s hs
    rw [← lack?_filter_isAbout, h s hs, lack?_filter_isAbout]
  have hround : wanted.foldl
        (fun round s => (figures? ls' s).elim round fun m => Table.set s m round) [] =
      wanted.foldl
        (fun round s => (figures? ls s).elim round fun m => Table.set s m round) [] := by
    apply List.foldl_ext
    intro round s hs
    rw [← figures?_filter_isAbout, h s hs, figures?_filter_isAbout]
  rw [ofLines, ofLines, hfault, hlack, hround]

/-- The outcome is up to the lines about each wanted scenario, each of them by itself. -/
theorem toOption_ofLines_congr {ls ls' : List Text} {wanted : List ScenarioName}
    (h : ∀ s ∈ wanted, ls'.filter (isAbout s) = ls.filter (isAbout s)) :
  (ofLines ls' wanted).toOption = (ofLines ls wanted).toOption
  := by
  have hfault : ls'.findSome? (fault? wanted) = none ↔ ls.findSome? (fault? wanted) = none := by
    rw [findSome?_fault?_eq_none_iff, findSome?_fault?_eq_none_iff]
    apply forall₂_congr
    intro s hs
    rw [h s hs]
  cases hls : ls.findSome? (fault? wanted) with
  | none => rw [ofLines_congr ((hfault.2 hls).trans hls.symm) h]
  | some e =>
    obtain ⟨e', hls'⟩ := Option.ne_none_iff_exists'.1 (mt hfault.1 (by simp [hls]))
    rw [ofLines_of_fault hls, ofLines_of_fault hls']
    rfl

/-- The outcome is up to the lines that are about some wanted scenario, and if it is an error then
the error is as well. -/
theorem ofLines_filter (ls : List Text) (wanted : List ScenarioName) :
  ofLines (ls.filter fun line => wanted.any fun s => isAbout s line) wanted = ofLines ls wanted
  := by
  apply ofLines_congr
  · apply findSome?_filter_of_eq_none
    intro line hline
    apply List.findSome?_eq_none_iff.2
    intro s hs
    apply faultOf?_of_not_isAbout
    simpa using List.any_eq_false.1 hline s hs
  · intro s hs
    rw [List.filter_filter]
    congr 1
    funext line
    cases h : isAbout s line with
    | false => rfl
    | true =>
      rw [Bool.true_and]
      apply List.any_eq_true.2 ⟨s, hs, h⟩

/-- What a round log says is told by its lines, and the round has exactly the wanted scenarios,
each with the metrics of its last lines.  The outcome is kept by every change to the log that
keeps the lines about each wanted scenario, and the error as well by one that keeps the lines
about the wanted scenarios in their order. -/
theorem ofText_spec (t : Text) (wanted : List ScenarioName) :
  ofText t wanted = ofLines (Text.lines t) wanted
    ∧ (∀ round, ofText t wanted = .ok round → ∀ s, (Table.has s round = true ↔ s ∈ wanted)
      ∧ (s ∈ wanted → Table.get? s round = figures? (Text.lines t) s))
    ∧ (∀ t', (∀ s ∈ wanted, (Text.lines t').filter (isAbout s) = (Text.lines t).filter (isAbout s)) →
      (ofText t' wanted).toOption = (ofText t wanted).toOption)
    ∧ (∀ t', ((Text.lines t').filter fun line => wanted.any fun s => isAbout s line) =
        ((Text.lines t).filter fun line => wanted.any fun s => isAbout s line) →
      ofText t' wanted = ofText t wanted)
  := by
  use ofText_eq_ofLines t wanted
  simp only [ofText_eq_ofLines]
  refine ⟨fun round hround => get?_of_ofLines hround, ?_, ?_⟩
  · intro t' h
    apply toOption_ofLines_congr h
  · intro t' h
    rw [← ofLines_filter, h, ofLines_filter]

/-- A log of two scenarios, one of which takes up part of the name of the other. -/
def mixedLog : Text := Text.unlines
  ["a wrk_requests=9 wrk_rps=1 wrk_p99=1ms wrk_latency_avg=n/a".toList,
    "ab wrk_requests=9 wrk_rps=2 wrk_p99=2ms wrk_latency_avg=n/a".toList,
    "a wrk_requests=9 wrk_rps=3 wrk_p99=3ms wrk_latency_avg=n/a".toList,
    "ab cpu_pct=4 peak_rss_kb=4".toList,
    "a cpu_pct=5 peak_rss_kb=5".toList]

/-- The lines of that log with those of either scenario together, and with others. -/
def sortedLog : Text := Text.unlines
  ["a wrk_requests=9 wrk_rps=1 wrk_p99=1ms wrk_latency_avg=n/a".toList,
    "a wrk_requests=9 wrk_rps=3 wrk_p99=3ms wrk_latency_avg=n/a".toList,
    "a cpu_pct=5 peak_rss_kb=5".toList,
    "c wrk_rps=?".toList,
    "ab wrk_requests=9 wrk_rps=2 wrk_p99=2ms wrk_latency_avg=n/a".toList,
    "ab cpu_pct=4 peak_rss_kb=4".toList]

/-- Both logs say the same, also behind a line of another scenario. -/
theorem ofText_spec_mixed :
  (ofText sortedLog ["a".toList, "ab".toList]).toOption =
      (ofText mixedLog ["a".toList, "ab".toList]).toOption
    ∧ ofText ("c cpu_pct=?\n".toList ++ mixedLog) ["a".toList, "ab".toList] =
      ofText mixedLog ["a".toList, "ab".toList]
    ∧ ∃ round, ofText mixedLog ["a".toList, "ab".toList] = .ok round
      ∧ Table.has "a".toList round = true
  := by
  obtain ⟨-, hround, hmixed, hother⟩ := ofText_spec mixedLog ["a".toList, "ab".toList]
  refine ⟨hmixed sortedLog (by decide +kernel), hother _ (by decide +kernel), ?_⟩
  have hok : (ofText mixedLog ["a".toList, "ab".toList]).toOption.isSome = true := by
    decide +kernel
  cases h : ofText mixedLog ["a".toList, "ab".toList] with
  | error e =>
    rw [h] at hok
    cases hok
  | ok round =>
    use round, rfl
    apply (hround round h "a".toList).1.2
    simp

end Round

end PerfGate
