import Mathlib.Data.List.Chain
import Mathlib.Tactic.Use
import PerfGate.Process.Table
import PerfGate.Proofs.First

/-!
# Descents to the service

A walk down a process tree leaves wrappers for one of their children, whatever the tree looks like:
it may have circles and it need not be finite.  What a process is left for is told by a relation
(`Resolver.Descends`), and the walk ends where the relation does, or at the greatest depth
(`Resolver.resolve_eq_iff`).  Since a process is left for one child only, this says where a walk
ends, and not only that it ends so.
-/

namespace PerfGate

namespace Resolver

variable (r : Resolver) (tree : ProcessTable)

/-! ### Children -/

/-- Whether a process is named like the service. -/
def NamedSubject (pid : Pid) : Prop := tree.name? pid = some r.subject

/-- Whether a process has the name of a wrapper. -/
def NamedWrapper (pid : Pid) : Prop := ∃ name ∈ r.wrappers, tree.name? pid = some name

/-- Whether a process has a name that is not a wrapper's. -/
def NamedOther (pid : Pid) : Prop := ∃ name, name ∉ r.wrappers ∧ tree.name? pid = some name

/-- Which of its children a wrapper is left for. -/
inductive Prefers (children : List Pid) : Pid → Prop where
  /-- The first one that is named like the service. -/
  | subject {child : Pid} (hfirst : IsFirst (r.NamedSubject tree) children child) :
    Prefers children child
  /-- Else the first one with a name that is not a wrapper's. -/
  | other {child : Pid} (hsubject : ∀ c ∈ children, ¬r.NamedSubject tree c)
    (hfirst : IsFirst (r.NamedOther tree) children child) :
    Prefers children child
  /-- Else the first one. -/
  | first {child : Pid} (hsubject : ∀ c ∈ children, ¬r.NamedSubject tree c)
    (hother : ∀ c ∈ children, ¬r.NamedOther tree c) (hfirst : children.head? = some child) :
    Prefers children child

variable {r tree}

theorem select?_eq_some_iff {children : List Pid} {child : Pid} :
  r.select? tree children = some child ↔ r.Prefers tree children child
  := by
  have hsubject : ∀ c, (tree.name? c == some r.subject) = true ↔ r.NamedSubject tree c := by
    intro c
    rw [beq_iff_eq, NamedSubject]
  have hother : ∀ c, ((tree.name? c).any fun name => !r.isWrapper name) = true ↔
      r.NamedOther tree c := by
    intro c
    rw [NamedOther]
    cases tree.name? c with
    | none => simp
    | some name => simp [isWrapper]
  unfold select?
  constructor
  · intro h
    split at h
    · rename_i c hc
      obtain rfl := Option.some.inj h
      apply Prefers.subject ((find?_eq_some_iff_isFirst hsubject).1 hc)
    · rename_i hno
      have hno := (find?_eq_none_iff_forall hsubject).1 hno
      split at h
      · rename_i c hc
        obtain rfl := Option.some.inj h
        apply Prefers.other hno ((find?_eq_some_iff_isFirst hother).1 hc)
      · rename_i hno'
        apply Prefers.first hno ((find?_eq_none_iff_forall hother).1 hno') h
  · rintro (hfirst | ⟨hno, hfirst⟩ | ⟨hno, hno', hfirst⟩)
    · rw [(find?_eq_some_iff_isFirst hsubject).2 hfirst]
    · rw [(find?_eq_none_iff_forall hsubject).2 hno, (find?_eq_some_iff_isFirst hother).2 hfirst]
    · rw [(find?_eq_none_iff_forall hsubject).2 hno, (find?_eq_none_iff_forall hother).2 hno']
      apply hfirst

/-- A wrapper with children is left for one of them. -/
theorem exists_prefers {children : List Pid} (h : children ≠ []) :
  ∃ child, r.Prefers tree children child
  := by
  obtain ⟨c, rest, rfl⟩ := List.exists_cons_of_ne_nil h
  have hsome : ∃ child, r.select? tree (c :: rest) = some child := by
    unfold select?
    split
    · exact ⟨_, rfl⟩
    · split
      · exact ⟨_, rfl⟩
      · exact ⟨_, rfl⟩
  obtain ⟨child, hchild⟩ := hsome
  use child
  apply select?_eq_some_iff.1 hchild

/-! ### Steps -/

variable (r tree)

/-- Whether a process is left for another one: it has the name of a wrapper, which is not that of
the service, and the other one is preferred among its children. -/
structure Descends (pid child : Pid) : Prop where
  wrapper : r.NamedWrapper tree pid
  not_subject : ¬r.NamedSubject tree pid
  prefers : r.Prefers tree (tree.children pid) child

/-- Whether a walk goes no further than a process. -/
inductive Rests (pid : Pid) : Prop where
  /-- It is named like the service. -/
  | subject (h : r.NamedSubject tree pid)
  /-- It has no name. -/
  | nameless (h : tree.name? pid = none)
  /-- Its name is not a wrapper's. -/
  | other (h : r.NamedOther tree pid)
  /-- It has no children. -/
  | childless (h : tree.children pid = [])

variable {r tree}

/-- Each process is left for another one, or it is the end of every walk that comes to it. -/
theorem descends_or_rests (r : Resolver) (tree : ProcessTable) (pid : Pid) :
  (∃ child, r.Descends tree pid child) ∨ r.Rests tree pid
  := by
  cases hname : tree.name? pid with
  | none => exact .inr (.nameless hname)
  | some name =>
    by_cases hsubject : r.NamedSubject tree pid
    · exact .inr (.subject hsubject)
    · by_cases hwrapper : name ∈ r.wrappers
      · by_cases hchildren : tree.children pid = []
        · exact .inr (.childless hchildren)
        · obtain ⟨child, hchild⟩ := @exists_prefers r tree _ hchildren
          exact .inl ⟨child, ⟨name, hwrapper, hname⟩, hsubject, hchild⟩
      · exact .inr (.other ⟨name, hwrapper, hname⟩)

theorem Descends.step {pid child : Pid} (h : r.Descends tree pid child) :
  r.step tree pid = .descend (tree.children pid)
  := by
  obtain ⟨name, hwrapper, hname⟩ := h.wrapper
  have hsubject : name ≠ r.subject := by
    rintro rfl
    apply h.not_subject hname
  have hselect := select?_eq_some_iff.2 h.prefers
  cases hchildren : tree.children pid with
  | nil =>
    rw [hchildren] at hselect
    cases hselect
  | cons c rest => simp [Resolver.step, hname, isWrapper, hwrapper, hsubject, hchildren]

/-- A process is left by the next step of a walk. -/
theorem Descends.walk {pid child : Pid} (h : r.Descends tree pid child) (depth : Nat) :
  r.walk tree (depth + 1) pid = r.walk tree depth child
  := by
  rw [Resolver.walk, h.step]
  dsimp only
  rw [select?_eq_some_iff.2 h.prefers]

theorem Rests.not_descend {pid : Pid} (h : r.Rests tree pid) (children : List Pid) :
  r.step tree pid ≠ .descend children
  := by
  unfold Resolver.step
  rcases h with hsubject | hname | ⟨name, hwrapper, hname⟩ | hchildren
  · rw [hsubject]
    simp
  · rw [hname]
    simp
  · rw [hname]
    dsimp only
    split
    · simp
    · simp [isWrapper, hwrapper]
  · rw [hchildren]
    dsimp only
    split
    · simp
    · split
      · simp
      · split <;> simp

/-- A walk stays at a process that is not left. -/
theorem Rests.walk {pid : Pid} (h : r.Rests tree pid) (depth : Nat) :
  r.walk tree depth pid = pid
  := by
  cases depth with
  | zero => rfl
  | succ depth =>
    rw [Resolver.walk]
    split
    · rename_i hstep
      cases h.not_descend _ hstep
    · rfl

theorem Descends.not_rests {pid child : Pid} (h : r.Descends tree pid child) :
  ¬r.Rests tree pid
  := fun hrests => hrests.not_descend _ h.step

/-- A process is left for one other process only. -/
theorem Descends.unique {pid child child' : Pid} (h : r.Descends tree pid child)
    (h' : r.Descends tree pid child') :
  child = child'
  := by
  have hselect := select?_eq_some_iff.2 h.prefers
  rw [select?_eq_some_iff.2 h'.prefers] at hselect
  exact (Option.some.inj hselect).symm

/-! ### Walks -/

/-- A walk of some depth ends at the end of the one chain of descents that goes down so deep, or
ends higher up. -/
theorem walk_eq_iff {depth : Nat} {pid last : Pid} :
  r.walk tree depth pid = last ↔
    ∃ below, List.IsChain (r.Descends tree) (pid :: below)
      ∧ (pid :: below).getLast? = some last ∧ below.length ≤ depth
      ∧ (below.length = depth ∨ r.Rests tree last)
  := by
  induction depth generalizing pid with
  | zero =>
    constructor
    · rintro rfl
      use [], List.isChain_singleton _, rfl, Nat.le_refl 0
      left
      rfl
    · rintro ⟨below, -, hlast, hlength, -⟩
      obtain rfl := List.length_eq_zero_iff.1 (Nat.le_zero.1 hlength)
      apply Option.some.inj hlast
  | succ depth ih =>
    rcases descends_or_rests r tree pid with ⟨child, hchild⟩ | hrests
    · rw [hchild.walk, ih]
      constructor
      · rintro ⟨below, hchain, hlast, hlength, hend⟩
        use child :: below, hchain.cons_cons hchild, by rw [List.getLast?_cons_cons, hlast]
        use Nat.succ_le_succ hlength, hend.imp_left (congrArg Nat.succ)
      · rintro ⟨below, hchain, hlast, hlength, hend⟩
        cases below with
        | nil =>
          obtain rfl := Option.some.inj hlast
          rcases hend with hlength | hrests
          · cases hlength
          · cases hchild.not_rests hrests
        | cons next below =>
          obtain ⟨hnext, hchain⟩ := List.isChain_cons_cons.1 hchain
          obtain rfl := hchild.unique hnext
          rw [List.getLast?_cons_cons] at hlast
          use below, hchain, hlast, Nat.le_of_succ_le_succ hlength, hend.imp_left Nat.succ.inj
    · rw [hrests.walk]
      constructor
      · rintro rfl
        use [], List.isChain_singleton _, rfl, Nat.zero_le _
        right
        apply hrests
      · rintro ⟨below, hchain, hlast, -, -⟩
        cases below with
        | nil => apply Option.some.inj hlast
        | cons next below => cases (List.isChain_cons_cons.1 hchain).1.not_rests hrests

variable (r tree) in
/-- Whether a process is a wrapper that has one child. -/
def Wraps (pid child : Pid) : Prop := r.NamedWrapper tree pid ∧ tree.children pid = [child]

/-- An only child is preferred, whatever it is. -/
theorem Wraps.descends {pid child : Pid} (h : r.Wraps tree pid child)
    (hsubject : ¬r.NamedSubject tree pid) :
  r.Descends tree pid child
  where
  wrapper := h.1
  not_subject := hsubject
  prefers := by
    obtain ⟨next, hnext⟩ := @exists_prefers r tree (tree.children pid) (by simp [h.2])
    have hmem : next ∈ tree.children pid := by
      rcases hnext with ⟨-, front, back, heq, -⟩ | ⟨-, -, front, back, heq, -⟩ | ⟨-, -, hhead⟩
      · rw [heq]
        simp
      · rw [heq]
        simp
      · apply List.mem_of_head? hhead
    rw [h.2, List.mem_singleton] at hmem
    rw [← hmem]
    apply hnext

/-- A walk through wrappers with one child each comes to the service, if it is deep enough. -/
theorem isFirst_walk {depth : Nat} {pid : Pid} {below : List Pid}
    (hchain : List.IsChain (r.Wraps tree) (pid :: below)) (hlength : below.length ≤ depth)
    (hsubject : ∃ p ∈ pid :: below, r.NamedSubject tree p) :
  IsFirst (r.NamedSubject tree) (pid :: below) (r.walk tree depth pid)
  := by
  induction below generalizing pid depth with
  | nil =>
    obtain ⟨p, hp, hsubject⟩ := hsubject
    obtain rfl := List.mem_singleton.1 hp
    rw [(Rests.subject hsubject).walk]
    use hsubject, [], [], rfl
    apply List.forall_mem_nil
  | cons next below ih =>
    by_cases hpid : r.NamedSubject tree pid
    · rw [(Rests.subject hpid).walk]
      use hpid, [], next :: below, rfl
      apply List.forall_mem_nil
    · obtain ⟨hwraps, hchain⟩ := List.isChain_cons_cons.1 hchain
      rw [List.length_cons] at hlength
      obtain ⟨depth, rfl⟩ : ∃ d, depth = d + 1 := ⟨depth - 1, by omega⟩
      rw [(hwraps.descends hpid).walk]
      apply IsFirst.cons _ hpid
      apply ih hchain (by omega)
      obtain ⟨p, hp, hsubject⟩ := hsubject
      rcases List.mem_cons.1 hp with rfl | hp
      · cases hpid hsubject
      · use p, hp, hsubject

/-- The process that is taken for the service is the end of the chain of descents from the first
process, which is as long as the greatest depth or ends at a process that is not left.  If there is
nothing but a line of wrappers down to the service, of no more than that depth, it is the service. -/
theorem resolve_eq_iff (r : Resolver) (tree : ProcessTable) (launcher : Pid) :
  (∀ pid, r.resolve tree launcher = pid ↔
      ∃ below, List.IsChain (r.Descends tree) (launcher :: below)
        ∧ (launcher :: below).getLast? = some pid ∧ (below.length : Int) ≤ max r.maxDepth 0
        ∧ ((below.length : Int) = max r.maxDepth 0 ∨ r.Rests tree pid))
    ∧ ∀ below, List.IsChain (r.Wraps tree) (launcher :: below) →
      (below.length : Int) ≤ max r.maxDepth 0 →
      (∃ pid ∈ launcher :: below, r.NamedSubject tree pid) →
      IsFirst (r.NamedSubject tree) (launcher :: below) (r.resolve tree launcher)
  := by
  have hdepth : (r.maxDepth.toNat : Int) = max r.maxDepth 0 := Int.toNat_eq_max _
  rw [← hdepth]
  constructor
  · intro pid
    simp only [Int.ofNat_le, Int.ofNat_inj]
    apply walk_eq_iff
  · intro below hchain hlength
    apply isFirst_walk hchain (Int.ofNat_le.1 hlength)

/-- Two wrappers with the service below them, and two wrappers that are children of each other. -/
def wrapped : ProcessTable where
  name? pid :=
    ([(1, "bash"), (2, "taskset"), (3, "toolify"), (4, "sh"), (5, "bash")].lookup pid).map
      String.toList
  children pid := ([(1, [2]), (2, [3]), (4, [5]), (5, [4])].lookup pid).getD []

/-- The standard rule for a service with a given name. -/
def standard (subject : Text) : Resolver where
  subject

/-- The service is found below its wrappers, and a walk in a circle ends after eight steps. -/
theorem resolve_eq_iff_wrapped :
  IsFirst ((standard "toolify".toList).NamedSubject wrapped) [1, 2, 3]
      ((standard "toolify".toList).resolve wrapped 1)
    ∧ (standard "toolify".toList).resolve wrapped 1 = 3
    ∧ ∃ below, List.IsChain ((standard "toolify".toList).Descends wrapped) (4 :: below)
      ∧ (below.length : Int) = 8 ∧ (4 :: below).getLast? = some 4
  := by
  constructor
  · apply (resolve_eq_iff (standard "toolify".toList) wrapped 1).2 [2, 3]
    · apply List.IsChain.cons_cons ⟨⟨"bash".toList, by decide, by decide⟩, by decide⟩
      apply List.IsChain.cons_cons ⟨⟨"taskset".toList, by decide, by decide⟩, by decide⟩
      apply List.isChain_singleton
    · decide
    · use 3, by decide
      show wrapped.name? 3 = _
      decide
  · use by decide
    obtain ⟨below, hchain, hlast, -, hend⟩ :=
      ((resolve_eq_iff (standard "toolify".toList) wrapped 4).1 4).1 (by decide)
    use below, hchain
    refine ⟨hend.resolve_right ?_, hlast⟩
    rintro (hsubject | hname | ⟨name, hwrapper, hname⟩ | hchildren)
    · revert hsubject
      unfold NamedSubject
      decide
    · revert hname
      decide
    · obtain rfl := Option.some.inj hname
      revert hwrapper
      decide
    · revert hchildren
      decide

end Resolver

end PerfGate
