import Mathlib.Data.List.Forall2
import Mathlib.Tactic.Use

/-!
# Computations that can fail

A computation in steps succeeds only if each of its steps does.  Over a list this says that every
element is computed, and a computation over a list depends on what it does with the elements only.
-/

namespace PerfGate

/-- A computation that succeeds does so in both its parts. -/
theorem exists_ok_of_bind_eq_ok {ε α β : Type} {x : Except ε α} {f : α → Except ε β} {b : β}
    (h : (x >>= f) = .ok b) :
  ∃ a, x = .ok a ∧ f a = .ok b
  := by
  cases x with
  | error e => cases h
  | ok a => use a, rfl, h

/-- A computation that succeeds on every element of a list succeeds on the list, element by
element, and goes on with the results. -/
theorem exists_mapM_bind_ok {ε β γ δ : Type} {f : β → Except ε γ} {k : List γ → Except ε δ}
    {good : δ → Prop} {xs : List β} (r : β → γ → Prop) (hf : ∀ x ∈ xs, ∃ y, f x = .ok y ∧ r x y)
    (hk : ∀ ys, List.Forall₂ r xs ys → ∃ d, k ys = .ok d ∧ good d) :
  ∃ d, (xs.mapM f >>= k) = .ok d ∧ good d
  := by
  induction xs generalizing k with
  | nil =>
    rw [List.mapM_nil]
    apply hk [] List.Forall₂.nil
  | cons x xs ih =>
    obtain ⟨y, hy, hr⟩ := hf x List.mem_cons_self
    have hbind : ((x :: xs).mapM f >>= k) = (xs.mapM f >>= fun ys => k (y :: ys)) := by
      rw [List.mapM_cons, hy]
      show ((xs.mapM f >>= fun ys => pure (y :: ys)) >>= k) = _
      simp only [bind_assoc, pure_bind]
    rw [hbind]
    apply ih
    · intro z hz
      apply hf z (List.mem_cons_of_mem _ hz)
    · intro ys hys
      apply hk (y :: ys) (List.Forall₂.cons hr hys)

/-- What succeeds on a list succeeds on every element of it. -/
theorem exists_ok_of_mapM_bind {ε β γ δ : Type} {f : β → Except ε γ} {k : List γ → Except ε δ}
    {xs : List β} {d : δ} (h : (xs.mapM f >>= k) = .ok d) :
  ∀ x ∈ xs, ∃ y, f x = .ok y
  := by
  induction xs generalizing k with
  | nil =>
    intro x hx
    cases hx
  | cons x xs ih =>
    rw [List.mapM_cons, bind_assoc] at h
    obtain ⟨y, hy, h⟩ := exists_ok_of_bind_eq_ok h
    rw [bind_assoc] at h
    intro z hz
    rcases List.mem_cons.1 hz with rfl | hz
    · use y
    · apply ih h z hz

theorem mapM_congr {ε β γ : Type} {f g : β → Except ε γ} {xs : List β}
    (h : ∀ x ∈ xs, f x = g x) :
  xs.mapM f = xs.mapM g
  := by
  induction xs with
  | nil => rfl
  | cons x xs ih =>
    rw [List.mapM_cons, List.mapM_cons, h x List.mem_cons_self,
      ih fun z hz => h z (List.mem_cons_of_mem x hz)]

theorem eq_ok_of_toOption_eq_some {ε α : Type} {x : Except ε α} {a : α} (h : x.toOption = some a) :
  x = .ok a
  := by
  cases x with
  | error e => cases h
  | ok b => exact congrArg Except.ok (Option.some.inj h)

end PerfGate
