import PerfGate.Proofs.Stats.Order

/-!
# Medians are majority votes

A median is at least a threshold if more than half of the values are, and only if at least half of
them are; likewise for at most.  With an odd number of values the two conditions are one.  A
majority of values strictly on one side of the threshold therefore takes the median there
(`median_lt_of_majority`, `lt_median_of_majority`).
-/

namespace PerfGate

namespace Stats

variable {values : List ℚ} {c : ℚ}

/-! ### The value at a place -/

/-- Each value is either below a threshold or at least it. -/
theorem countP_lt_add_countP_ge (values : List ℚ) (c : ℚ) :
  values.countP (· < c) + values.countP (c ≤ ·) = values.length
  := by
  rw [List.length_eq_countP_add_countP (· < c)]
  simp

/-- Each value is either above a threshold or at most it. -/
theorem countP_gt_add_countP_le (values : List ℚ) (c : ℚ) :
  values.countP (c < ·) + values.countP (· ≤ c) = values.length
  := by
  rw [List.length_eq_countP_add_countP (c < ·)]
  simp

theorem sort_getD_le_iff {i : Nat} (hi : i < values.length) (d : ℚ) :
  (sort values).getD i d ≤ c ↔ i + 1 ≤ values.countP (· ≤ c)
  := by
  have hdown : ∀ a b, a ≤ b → decide (b ≤ c) = true → decide (a ≤ c) = true := by
    intro a b hab hb
    apply decide_eq_true (hab.trans (of_decide_eq_true hb))
  rw [Nat.add_one_le_iff, ← sort_getD_iff hdown hi d, decide_eq_true_iff]

theorem le_sort_getD_iff {i : Nat} (hi : i < values.length) (d : ℚ) :
  c ≤ (sort values).getD i d ↔ values.length ≤ i + values.countP (c ≤ ·)
  := by
  have hdown : ∀ a b, a ≤ b → decide (b < c) = true → decide (a < c) = true := by
    intro a b hab hb
    apply decide_eq_true (hab.trans_lt (of_decide_eq_true hb))
  have hcount := countP_lt_add_countP_ge values c
  have hbelow := sort_getD_iff hdown hi d
  rw [decide_eq_true_iff] at hbelow
  rw [← not_lt, hbelow]
  omega

/-! ### The median -/

/-- The median is at least what more than half of the values are. -/
theorem le_median_of_majority (h : values.length / 2 + 1 ≤ values.countP (c ≤ ·)) :
  c ≤ median values
  := by
  have hlength := List.countP_le_length (p := (c ≤ ·)) (l := values)
  have hlow : c ≤ (sort values).getD ((values.length - 1) / 2) 0 :=
    (le_sort_getD_iff (by omega) 0).2 (by omega)
  have hhigh : c ≤ (sort values).getD (values.length / 2) 0 :=
    (le_sort_getD_iff (by omega) 0).2 (by omega)
  rw [median_eq]
  linarith

/-- At least half of the values are at least what the median is. -/
theorem half_of_le_median (hne : values ≠ []) (h : c ≤ median values) :
  (values.length + 1) / 2 ≤ values.countP (c ≤ ·)
  := by
  have hlength := List.length_pos_iff.2 hne
  by_contra hfew
  have hlow : ¬c ≤ (sort values).getD ((values.length - 1) / 2) 0 :=
    mt (le_sort_getD_iff (by omega) 0).1 (by omega)
  have hhigh : ¬c ≤ (sort values).getD (values.length / 2) 0 :=
    mt (le_sort_getD_iff (by omega) 0).1 (by omega)
  rw [median_eq] at h
  linarith

/-- The median is at most what more than half of the values are. -/
theorem median_le_of_majority (h : values.length / 2 + 1 ≤ values.countP (· ≤ c)) :
  median values ≤ c
  := by
  have hlength := List.countP_le_length (p := (· ≤ c)) (l := values)
  have hlow : (sort values).getD ((values.length - 1) / 2) 0 ≤ c :=
    (sort_getD_le_iff (by omega) 0).2 (by omega)
  have hhigh : (sort values).getD (values.length / 2) 0 ≤ c :=
    (sort_getD_le_iff (by omega) 0).2 (by omega)
  rw [median_eq]
  linarith

/-- At least half of the values are at most what the median is. -/
theorem half_of_median_le (hne : values ≠ []) (h : median values ≤ c) :
  (values.length + 1) / 2 ≤ values.countP (· ≤ c)
  := by
  have hlength := List.length_pos_iff.2 hne
  by_contra hfew
  have hlow : ¬(sort values).getD ((values.length - 1) / 2) 0 ≤ c :=
    mt (sort_getD_le_iff (by omega) 0).1 (by omega)
  have hhigh : ¬(sort values).getD (values.length / 2) 0 ≤ c :=
    mt (sort_getD_le_iff (by omega) 0).1 (by omega)
  rw [median_eq] at h
  linarith

/-- A majority of values below a threshold takes the median there. -/
theorem median_lt_of_majority (h : values.length < 2 * values.countP (· < c)) :
  median values < c
  := by
  by_contra hge
  have hne : values ≠ [] := by
    rintro rfl
    simp at h
  have hhalf := half_of_le_median hne (not_lt.1 hge)
  have hcount := countP_lt_add_countP_ge values c
  omega

/-- A majority of values above a threshold takes the median there. -/
theorem lt_median_of_majority (h : values.length < 2 * values.countP (c < ·)) :
  c < median values
  := by
  by_contra hle
  have hne : values ≠ [] := by
    rintro rfl
    simp at h
  have hhalf := half_of_median_le hne (not_lt.1 hle)
  have hcount := countP_gt_add_countP_le values c
  omega

end Stats

end PerfGate
