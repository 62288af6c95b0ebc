import Mathlib.Algebra.BigOperators.Group.List.Basic
import Mathlib.Data.List.Forall2
import Mathlib.Data.List.GetD
import Mathlib.Data.List.Sort
import Mathlib.Tactic.Linarith
import PerfGate.Proofs.Exact
import PerfGate.Proofs.Stats

/-!
# Order statistics of exact values

`Stats.sort` is the one ascending arrangement of its values, so it does not depend on their order.
The value at a place of it has a property that passes downwards exactly if more values than that
have the property (`sort_getD_iff`).  Therefore a list that is at most another one, value by value,
stays so when both are sorted, and so do the medians (`median_le_median`).
-/

namespace PerfGate

namespace Stats

section Permutation

variable {α : Type} [Scalar α]

theorem insertDescending_perm (v : α) (ws : List α) :
  (insertDescending v ws).Perm (v :: ws)
  := by
  induction ws with
  | nil => rfl
  | cons w ws ih =>
    rw [insertDescending]
    split
    · apply (ih.cons w).trans
      apply List.Perm.swap
    · rfl

theorem place_perm (v : α) (ws : List α) :
  (place v ws).Perm (v :: ws)
  := by
  unfold place
  split
  · split
    · apply List.perm_append_singleton
    · apply insertDescending_perm
  · rename_i hlast
    rw [List.getLast?_eq_none_iff.1 hlast]

theorem foldl_place_perm (values ws : List α) :
  (values.foldl (fun ws v => place v ws) ws).Perm (values ++ ws)
  := by
  induction values generalizing ws with
  | nil => rfl
  | cons v values ih =>
    rw [List.foldl_cons, List.cons_append]
    apply (ih _).trans
    apply ((place_perm v ws).append_left values).trans
    apply List.perm_middle

/-- Sorting only rearranges. -/
theorem sort_perm (values : List α) :
  (sort values).Perm values
  := by
  apply (List.reverse_perm _).trans
  apply (foldl_place_perm values []).trans
  rw [List.append_nil]

theorem length_sort (values : List α) :
  (sort values).length = values.length
  := (sort_perm values).length_eq

end Permutation

/-! ### The ascending arrangement -/

theorem pairwise_insertDescending {v : ℚ} {ws : List ℚ} (h : ws.Pairwise (· ≥ ·)) :
  (insertDescending v ws).Pairwise (· ≥ ·)
  := by
  induction ws with
  | nil => apply List.pairwise_singleton
  | cons w ws ih =>
    obtain ⟨hw, hws⟩ := List.pairwise_cons.1 h
    rw [insertDescending]
    split
    · rename_i hlt
      apply List.pairwise_cons.2
      use fun x hx => ?_, ih hws
      rcases mem_insertDescending.1 hx with rfl | hx
      · apply (Exact.lt_iff.1 hlt).le
      · apply hw x hx
    · rename_i hge
      have hle : w ≤ v := by simpa using hge
      apply List.pairwise_cons.2
      use fun x hx => ?_, h
      rcases List.mem_cons.1 hx with rfl | hx
      · apply hle
      · apply (hw x hx).trans hle

theorem pairwise_place {v : ℚ} {ws : List ℚ} (h : ws.Pairwise (· ≥ ·)) :
  (place v ws).Pairwise (· ≥ ·)
  := by
  unfold place
  split
  · rename_i w hlast
    split
    · rename_i hlt
      have hlt : v < w := Exact.lt_iff.1 hlt
      -- the last value is the least, so whatever is below it is below all
      obtain ⟨ws, rfl⟩ := List.getLast?_eq_some_iff.1 hlast
      have hleast := (List.pairwise_append.1 h).2.2
      apply List.pairwise_append.2
      use h, List.pairwise_singleton _ _
      intro x hx y hy
      obtain rfl := List.mem_singleton.1 hy
      rcases List.mem_append.1 hx with hx | hx
      · apply hlt.le.trans (hleast x hx w (List.mem_singleton_self w))
      · rw [List.mem_singleton.1 hx]
        apply hlt.le
    · apply pairwise_insertDescending h
  · apply List.pairwise_singleton

theorem pairwise_foldl_place {values ws : List ℚ} (h : ws.Pairwise (· ≥ ·)) :
  (values.foldl (fun ws v => place v ws) ws).Pairwise (· ≥ ·)
  := by
  induction values generalizing ws with
  | nil => apply h
  | cons v values ih =>
    apply ih
    apply pairwise_place h

/-- Sorted values ascend. -/
theorem pairwise_sort (values : List ℚ) :
  (sort values).Pairwise (· ≤ ·)
  := by
  rw [sort, List.pairwise_reverse]
  apply pairwise_foldl_place List.Pairwise.nil

/-- There is one ascending arrangement only. -/
theorem sort_eq_of_perm {values arranged : List ℚ} (h : arranged.Perm values)
    (hsorted : arranged.Pairwise (· ≤ ·)) :
  sort values = arranged
  := ((sort_perm values).trans h.symm).eq_of_pairwise' (pairwise_sort values) hsorted

/-- Sorting does not depend on the order of the values. -/
theorem sort_congr {xs ys : List ℚ} (h : xs.Perm ys) :
  sort xs = sort ys
  := sort_eq_of_perm ((sort_perm ys).trans h.symm) (pairwise_sort ys)

theorem sort_map {f : ℚ → ℚ} (hf : Monotone f) (values : List ℚ) :
  sort (values.map f) = (sort values).map f
  := by
  apply sort_eq_of_perm ((sort_perm values).map f)
  apply List.Pairwise.map f (fun _ _ hle => hf hle) (pairwise_sort values)

/-! ### The value at a place -/

/-- Among ascending values, the one at a place has a property that passes downwards exactly if
more values than that place has before it have the property. -/
theorem getD_iff_of_pairwise {p : ℚ → Bool} (hp : ∀ a b, a ≤ b → p b = true → p a = true)
    {values : List ℚ} (h : values.Pairwise (· ≤ ·)) {i : Nat} (hi : i < values.length) (d : ℚ) :
  p (values.getD i d) = true ↔ i < values.countP p
  := by
  induction values generalizing i with
  | nil => simp at hi
  | cons v values ih =>
    obtain ⟨hv, hvalues⟩ := List.pairwise_cons.1 h
    by_cases hpv : p v = true
    · rw [List.countP_cons_of_pos hpv]
      cases i with
      | zero => simp [hpv]
      | succ i =>
        rw [List.getD_cons_succ, ih hvalues (by simpa using hi)]
        omega
    · -- the first value lacks the property, and so does each behind it
      have hnone : ∀ w ∈ v :: values, ¬p w = true := by
        intro w hw hpw
        rcases List.mem_cons.1 hw with rfl | hw
        · apply hpv hpw
        · apply hpv (hp v w (hv w hw) hpw)
      rw [List.countP_eq_zero.2 hnone]
      rw [List.getD_eq_getElem _ _ hi]
      simp only [Nat.not_lt_zero, iff_false]
      apply hnone _ (List.getElem_mem hi)

theorem sort_getD_iff {p : ℚ → Bool} (hp : ∀ a b, a ≤ b → p b = true → p a = true)
    {values : List ℚ} {i : Nat} (hi : i < values.length) (d : ℚ) :
  p ((sort values).getD i d) = true ↔ i < values.countP p
  := by
  rw [← (sort_perm values).countP_eq]
  apply getD_iff_of_pairwise hp (pairwise_sort values)
  rw [length_sort]
  apply hi

/-- If each element of a list is counted whenever its partner is, no fewer are counted. -/
theorem countP_le_of_forall₂ {β γ : Type} {p : β → Bool} {q : γ → Bool} {xs : List β} {ys : List γ}
    (h : List.Forall₂ (fun x y => q y = true → p x = true) xs ys) :
  ys.countP q ≤ xs.countP p
  := by
  induction h with
  | nil => apply Nat.le_refl
  | cons hhead _ ih =>
    rw [List.countP_cons, List.countP_cons]
    split
    · rename_i hq
      rw [if_pos (hhead hq)]
      omega
    · omega

/-- Values that are at most others, one by one, are so in ascending order too. -/
theorem sort_getD_le {xs ys : List ℚ} (h : List.Forall₂ (· ≤ ·) xs ys) (i : Nat) (d : ℚ) :
  (sort xs).getD i d ≤ (sort ys).getD i d
  := by
  rcases Nat.lt_or_ge i ys.length with hi | hi
  · have hdown : ∀ a b, a ≤ b → decide (b ≤ (sort ys).getD i d) = true →
        decide (a ≤ (sort ys).getD i d) = true := by
      intro a b hab hb
      apply decide_eq_true (hab.trans (of_decide_eq_true hb))
    have hcount := (sort_getD_iff hdown hi d).1 (decide_eq_true le_rfl)
    have hcount' := hcount.trans_le (countP_le_of_forall₂ (h.imp hdown))
    apply of_decide_eq_true ((sort_getD_iff hdown (h.length_eq ▸ hi) d).2 hcount')
  · rw [List.getD_eq_default, List.getD_eq_default]
    · rw [length_sort]
      apply hi
    · rw [length_sort, h.length_eq]
      apply hi

/-! ### Medians -/

/-- The median is half the sum of the values at the two central places, which are the same if
there is an odd number of values. -/
theorem median_eq (values : List ℚ) :
  median values =
    ((sort values).getD ((values.length - 1) / 2) 0 + (sort values).getD (values.length / 2) 0) / 2
  := by
  have hodd : ∀ x : ℚ, x = (x + x) / 2 := fun x => by ring
  unfold median
  simp only [length_sort, Exact.ofInt_eq]
  split
  · rename_i hnone
    rw [List.getD_eq_default, List.getD_eq_default]
    · norm_num
    · rw [length_sort, hnone]
    · rw [length_sort, hnone]
  · split
    · rename_i hone
      rw [show (values.length - 1) / 2 = values.length / 2 by omega]
      apply hodd
    · rename_i htwo
      rw [show (values.length - 1) / 2 = values.length / 2 - 1 by omega]
      rfl

theorem median_congr {xs ys : List ℚ} (h : xs.Perm ys) :
  median xs = median ys
  := by
  rw [median_eq, median_eq, sort_congr h, h.length_eq]

/-- The median does not fall if no value does. -/
theorem median_le_median {xs ys : List ℚ} (h : List.Forall₂ (· ≤ ·) xs ys) :
  median xs ≤ median ys
  := by
  have hlow := sort_getD_le h ((ys.length - 1) / 2) 0
  have hhigh := sort_getD_le h (ys.length / 2) 0
  rw [median_eq, median_eq, h.length_eq]
  linarith

theorem le_median {values : List ℚ} {c : ℚ} (hne : values ≠ []) (h : ∀ v ∈ values, c ≤ v) :
  c ≤ median values
  := by
  rcases median_cases hne with hmem | ⟨a, ha, b, hb, heq⟩
  · apply h _ hmem
  · have hab : median values = (a + b) / 2 := heq
    have hca := h a ha
    have hcb := h b hb
    linarith

theorem median_le {values : List ℚ} {c : ℚ} (hne : values ≠ []) (h : ∀ v ∈ values, v ≤ c) :
  median values ≤ c
  := by
  rcases median_cases hne with hmem | ⟨a, ha, b, hb, heq⟩
  · apply h _ hmem
  · have hab : median values = (a + b) / 2 := heq
    have hca := h a ha
    have hcb := h b hb
    linarith

theorem median_nonneg {values : List ℚ} (h : ∀ v ∈ values, 0 ≤ v) :
  0 ≤ median values
  := by
  by_cases hne : values = []
  · rw [hne]
    rfl
  · apply le_median hne h

/-- The median of values times a factor is the median times the factor. -/
theorem median_map_mul {k : ℚ} (hk : 0 ≤ k) (values : List ℚ) :
  median (values.map (k * ·)) = k * median values
  := by
  have hzero : (0 : ℚ) = k * 0 := by ring
  rw [median_eq, median_eq, sort_map (fun _ _ hle => mul_le_mul_of_nonneg_left hle hk),
    List.length_map]
  nth_rewrite 1 [hzero]
  nth_rewrite 2 [hzero]
  rw [List.getD_map, List.getD_map]
  ring

/-! ### Sums -/

theorem sum_eq (values : List ℚ) :
  sum values = values.sum
  := List.sum_eq_foldl.symm

theorem sum_congr {xs ys : List ℚ} (h : xs.Perm ys) :
  sum xs = sum ys
  := by
  rw [sum_eq, sum_eq, h.sum_eq]

/-- The variation does not depend on the order of the values. -/
theorem variation_congr {xs ys : List ℚ} (h : xs.Perm ys) :
  variation xs = variation ys
  := by
  have hempty : xs.isEmpty = ys.isEmpty := h.isEmpty_eq
  have hmean : mean xs = mean ys := by
    unfold mean
    rw [hempty, sum_congr h, h.length_eq]
  have hdeviation : deviation xs = deviation ys := by
    unfold deviation
    rw [hempty, hmean, h.length_eq]
    dsimp only
    rw [sum_congr (h.map _)]
  unfold variation
  rw [hempty, hmean, hdeviation]

end Stats

end PerfGate
