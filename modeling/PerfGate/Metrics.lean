import PerfGate.Scalar
import PerfGate.Text

/-!
# Metrics

What one round measures for one scenario, and the baseline that it is held against.  A
`Table` keeps one value per name, in the order in which the names came up.
-/

namespace PerfGate

/-- The name of a scenario. -/
abbrev ScenarioName := Text

/-- The metrics of one scenario in one round. -/
structure Metrics (α : Type) where
  /-- Requests per second. -/
  rps : α
  /-- The 99th percentile of the latency, in microseconds. -/
  p99 : α
  /-- Processor time, in percent of one core. -/
  cpu : α
  /-- Peak resident memory, in kilobytes. -/
  rss : α
deriving DecidableEq

/-- Processor cost per thousand requests per second; zero without requests. -/
def cpuCost {α : Type} [Scalar α] (cpu rps : α) : α :=
  if Scalar.isZero rps then Scalar.ofInt 0 else cpu * Scalar.ofInt 1000 / rps

/-- The known-good metrics of one scenario. -/
structure BaselineFigures (α : Type) extends Metrics α where
  /-- Processor cost per thousand requests per second. -/
  cpuCost : α
deriving DecidableEq

/-- The entry for given metrics, its processor cost derived from them. -/
def BaselineFigures.ofMetrics {α : Type} [Scalar α] (m : Metrics α) : BaselineFigures α :=
  { m with cpuCost := PerfGate.cpuCost m.cpu m.rps }

/-- One value per name. -/
abbrev Table (β : Type) := List (Text × β)

namespace Table

variable {β : Type}

/-- The value under a name. -/
def get? (name : Text) (t : Table β) : Option β := List.lookup name t

/-- Whether the name has a value. -/
def has (name : Text) (t : Table β) : Bool := (get? name t).isSome

/-- Gives a name a value: in its place if it has one already, else at the end. -/
def set (name : Text) (b : β) : Table β → Table β
  | [] => [(name, b)]
  | (n, c) :: t => if n == name then (n, b) :: t else (n, c) :: set name b t

/-- Changes the value under a name, if it has one. -/
def modify (name : Text) (f : β → β) (t : Table β) : Table β :=
  t.map fun (n, b) => if n == name then (n, f b) else (n, b)

@[simp] theorem get?_nil (name : Text) :
  get? name ([] : Table β) = none
  := rfl

theorem get?_cons (name n : Text) (b : β) (t : Table β) :
  get? name ((n, b) :: t) = if name = n then some b else get? name t
  := by
  unfold get?
  rw [List.lookup_cons]
  by_cases h : name = n
  · simp [h]
  · rw [if_neg h, beq_eq_false_iff_ne.2 h]

/-- After a name was given a value, it has that value and every other name is as before. -/
theorem get?_set (name n : Text) (b : β) (t : Table β) :
  get? name (set n b t) = if name = n then some b else get? name t
  := by
  induction t with
  | nil => simp [set, get?_cons]
  | cons p t ih =>
    obtain ⟨m, c⟩ := p
    simp only [set, beq_iff_eq]
    split
    · rename_i h
      subst h
      simp only [get?_cons]
      split <;> rfl
    · rename_i h
      rw [get?_cons, get?_cons, ih]
      split
      · rename_i h'
        rw [if_neg (fun e => h (h'.symm.trans e))]
      · rfl

/-- After the value under a name was changed, every other name has the value it had. -/
theorem get?_modify (name n : Text) (f : β → β) (t : Table β) :
  get? name (modify n f t) = if name = n then (get? n t).map f else get? name t
  := by
  induction t with
  | nil => simp [modify]
  | cons p t ih =>
    obtain ⟨m, c⟩ := p
    have hcons : modify n f ((m, c) :: t) = (m, if m = n then f c else c) :: modify n f t := by
      simp only [modify, List.map_cons, beq_iff_eq]
      split <;> rfl
    rw [hcons, get?_cons, get?_cons, get?_cons, ih]
    by_cases hname : name = n
    · subst hname
      by_cases hm : name = m
      · simp [hm]
      · simp [hm]
    · by_cases hm : name = m
      · have hne : m ≠ n := fun e => hname (hm.trans e)
        simp [hm, hne]
      · simp [hm, hname]

end Table

/-- The metrics of the scenarios of one round. -/
abbrev Round (α : Type) := Table (Metrics α)

/-- The baseline of the scenarios. -/
abbrev Baseline (α : Type) := Table (BaselineFigures α)

end PerfGate
