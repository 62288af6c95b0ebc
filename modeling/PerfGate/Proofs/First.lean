import Mathlib.Tactic.Use

/-!
# First elements

The first element of a list with a property, by what stands in front of it: that is what a search
through the list finds, and a search finds nothing exactly if no element has the property.
-/

namespace PerfGate

/-- Whether an element of a list is the first one with a property. -/
def IsFirst {α : Type} (p : α → Prop) (xs : List α) (x : α) : Prop :=
  p x ∧ ∃ front back, xs = front ++ x :: back ∧ ∀ y ∈ front, ¬p y

theorem find?_eq_some_iff_isFirst {α : Type} {p : α → Prop} {test : α → Bool}
    (htest : ∀ x, test x = true ↔ p x) {xs : List α} {x : α} :
  xs.find? test = some x ↔ IsFirst p xs x
  := by
  rw [List.find?_eq_some_iff_append, IsFirst, htest]
  simp only [Bool.not_eq_true', ← htest, Bool.not_eq_true]

theorem find?_eq_none_iff_forall {α : Type} {p : α → Prop} {test : α → Bool}
    (htest : ∀ x, test x = true ↔ p x) {xs : List α} :
  xs.find? test = none ↔ ∀ x ∈ xs, ¬p x
  := by
  simp only [List.find?_eq_none, htest]

theorem IsFirst.cons {α : Type} {p : α → Prop} {xs : List α} {x y : α} (h : IsFirst p xs x)
    (hy : ¬p y) :
  IsFirst p (y :: xs) x
  := by
  obtain ⟨hx, front, back, rfl, hfront⟩ := h
  use hx, y :: front, back, rfl
  intro z hz
  rcases List.mem_cons.1 hz with rfl | hz
  · apply hy
  · apply hfront z hz

end PerfGate
