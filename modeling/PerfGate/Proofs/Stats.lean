import PerfGate.Proofs.Binary64.Rounding
import PerfGate.Stats

/-!
# Medians stay within bounds

Sorting keeps the values, so the median of some values is one of them or half the sum of two
of them.  It is therefore within every bound of the format that the values are within.
-/

namespace PerfGate

namespace Stats

section Membership

variable {α : Type} [Scalar α]

theorem mem_insertDescending {x v : α} {ws : List α} :
  x ∈ insertDescending v ws ↔ x = v ∨ x ∈ ws
  := by
  induction ws with
  | nil => simp [insertDescending]
  | cons w ws ih =>
    rw [insertDescending]
    split
    · rw [List.mem_cons, ih, List.mem_cons]
      apply or_left_comm
    · rw [List.mem_cons]

theorem mem_place {x v : α} {ws : List α} :
  x ∈ place v ws ↔ x = v ∨ x ∈ ws
  := by
  unfold place
  split
  · split
    · rw [List.mem_append, List.mem_singleton]
      apply or_comm
    · apply mem_insertDescending
  · rename_i hlast
    rw [List.getLast?_eq_none_iff.1 hlast, List.mem_singleton]
    simp

theorem mem_foldl_place {x : α} {values ws : List α} :
  x ∈ values.foldl (fun ws v => place v ws) ws ↔ x ∈ values ∨ x ∈ ws
  := by
  induction values generalizing ws with
  | nil => simp
  | cons v values ih =>
    rw [List.foldl_cons, ih, mem_place, List.mem_cons]
    apply or_left_comm.trans or_assoc.symm

theorem mem_sort {x : α} {values : List α} :
  x ∈ sort values ↔ x ∈ values
  := by
  rw [sort, List.mem_reverse, mem_foldl_place]
  simp

/-- The median is one of the values, or half the sum of two of them. -/
theorem median_cases {values : List α} (h : values ≠ []) :
  median values ∈ values
    ∨ ∃ a ∈ values, ∃ b ∈ values, median values = (a + b) / Scalar.ofInt 2
  := by
  have hlength : 0 < (sort values).length := by
    obtain ⟨v, hv⟩ := List.exists_mem_of_ne_nil values h
    apply List.length_pos_of_mem (mem_sort.2 hv)
  have hmem : ∀ (i : Nat) (zero : α), i < (sort values).length → (sort values).getD i zero ∈ values := by
    intro i zero hi
    rw [List.getD_eq_getElem?_getD, List.getElem?_eq_getElem hi, ← mem_sort]
    apply List.getElem_mem hi
  unfold median
  dsimp only
  rw [if_neg (by omega)]
  split
  · left
    apply hmem
    omega
  · right
    refine ⟨_, hmem _ _ ?_, _, hmem _ _ ?_, rfl⟩
    · omega
    · omega

end Membership

open Binary64

/-- The median of values within a bound is within that bound. -/
theorem within_median {values : List Binary64} {bound : Nat} (h : values ≠ [])
    (hbound : HasPrecision bound) (hlimit : 2 * bound < unitLimit)
    (hvalues : ∀ v ∈ values, Within bound v) :
  Within bound (median values)
  := by
  rcases median_cases h with hmem | ⟨a, ha, b, hb, heq⟩
  · apply hvalues _ hmem
  · rw [heq]
    apply Within.half hbound (by omega)
    apply Within.add hbound hlimit (hvalues a ha) (hvalues b hb)

/-- The median of numbers that are at most a bound is so, too. -/
theorem atMost_median {values : List Binary64} {bound : Nat} (h : values ≠ [])
    (hbound : HasPrecision bound) (hlimit : 2 * bound < unitLimit)
    (hvalues : ∀ v ∈ values, AtMost bound v) :
  AtMost bound (median values)
  := by
  rcases median_cases h with hmem | ⟨a, ha, b, hb, heq⟩
  · apply hvalues _ hmem
  · rw [heq]
    apply AtMost.half hbound (by omega)
    apply AtMost.add hbound hlimit (hvalues a ha) (hvalues b hb)

end Stats

end PerfGate
