import Mathlib.Algebra.Group.Nat.Defs
import Mathlib.Data.List.Induction
import PerfGate.Text.Decimal

/-!
# Runs of digits

The value of a run of digits is positional: a run in front counts as many powers of ten as
there are digits behind it.  A numeral has as many digits as its number needs, a padded one
as many as it is padded to, and the first digits of a run are its value without the last
places.
-/

namespace PerfGate

/-- Whether a text holds digits only. -/
def Text.IsDigits (t : Text) : Prop := ∀ c ∈ t, Text.isDigit c = true

theorem Text.IsDigits.take {t : Text} (h : t.IsDigits) (n : Nat) :
  Text.IsDigits (t.take n)
  := by
  intro c hc
  apply h c (List.mem_of_mem_take hc)

theorem Text.IsDigits.append {t u : Text} (ht : t.IsDigits) (hu : u.IsDigits) :
  Text.IsDigits (t ++ u)
  := by
  intro c hc
  rcases List.mem_append.1 hc with hc | hc
  · apply ht c hc
  · apply hu c hc

/-- A digit is no blank. -/
theorem Text.isBlank_of_isDigit {c : Char} (h : Text.isDigit c = true) :
  Text.isBlank c = false
  := by
  apply Bool.eq_false_iff.2
  intro hblank
  simp only [Text.isBlank, Bool.or_eq_true, beq_iff_eq] at hblank
  rcases hblank with ((((rfl | rfl) | rfl) | rfl) | rfl) | rfl <;> cases h

/-- A digit is not changed by lower case. -/
theorem Text.toLower_of_isDigit {c : Char} (h : Text.isDigit c = true) :
  c.toLower = c
  := by
  simp only [Text.isDigit, Bool.and_eq_true, decide_eq_true_eq, Char.le_def, UInt32.le_iff_toNat_le]
    at h
  have hnine : ('9'.val.toNat) = 57 := rfl
  have hletter : ('A'.val.toNat) = 65 := rfl
  unfold Char.toLower
  rw [dif_neg]
  rintro ⟨hlow, -⟩
  have hlow := UInt32.le_iff_toNat_le.1 hlow
  omega

namespace Decimal

theorem value_concat (ds : Text) (c : Char) :
  value (ds ++ [c]) = value ds * 10 + digitValue c
  := by
  rw [value_append_singleton, Nat.mul_comm]

theorem value_append (ds es : Text) :
  value (ds ++ es) = value ds * 10 ^ es.length + value es
  := by
  induction es using List.reverseRecOn with
  | nil => simp [value]
  | append_singleton es c ih =>
    rw [← List.append_assoc, value_concat, ih, value_concat, List.length_append,
      List.length_singleton, Nat.pow_succ, ← Nat.mul_assoc, Nat.add_mul, Nat.add_assoc]

theorem digitValue_lt {c : Char} (h : Text.isDigit c = true) :
  digitValue c < 10
  := by
  simp only [Text.isDigit, Bool.and_eq_true, decide_eq_true_eq, Char.le_def, UInt32.le_iff_toNat_le] at h
  have hzero : ('0'.val.toNat) = 48 := rfl
  have hnine : ('9'.val.toNat) = 57 := rfl
  have hval : c.toNat = c.val.toNat := rfl
  unfold digitValue
  omega

theorem value_lt {ds : Text} (h : ds.IsDigits) :
  value ds < 10 ^ ds.length
  := by
  induction ds with
  | nil => simp [value]
  | cons d ds ih =>
    have hds := ih fun c hc => h c (List.mem_cons_of_mem _ hc)
    have hd := digitValue_lt (h d List.mem_cons_self)
    have hsplit : value (d :: ds) = digitValue d * 10 ^ ds.length + value ds := by
      rw [← List.singleton_append, value_append]
      simp [value]
    have hmul : digitValue d * 10 ^ ds.length ≤ 9 * 10 ^ ds.length :=
      Nat.mul_le_mul_right _ (by omega)
    rw [hsplit, List.length_cons, Nat.pow_succ]
    omega

/-- The first digits of a run stand for its value without the last places. -/
theorem value_take {ds : Text} (h : ds.IsDigits) (n : Nat) :
  value (ds.take n) = value ds / 10 ^ (ds.length - n)
  := by
  have hdrop : value (ds.drop n) < 10 ^ (ds.length - n) := by
    rw [← List.length_drop]
    apply value_lt
    intro c hc
    apply h c (List.mem_of_mem_drop hc)
  have hsplit := value_append (ds.take n) (ds.drop n)
  rw [List.take_append_drop, List.length_drop] at hsplit
  rw [hsplit, Nat.mul_comm, Nat.mul_add_div (Nat.pow_pos (by omega)), Nat.div_eq_of_lt hdrop,
    Nat.add_zero]

theorem isDigits_digits (n : Nat) :
  (digits n).IsDigits
  := by
  intro c hc
  apply isDigit_of_mem_digits hc

theorem signed_natCast (n : Nat) :
  signed n = digits n
  := by
  rw [signed, if_neg (by omega), Int.natAbs_natCast]

theorem length_digits_le {n w : Nat} (h : n < 10 ^ (w + 1)) :
  (digits n).length ≤ w + 1
  := by
  induction w generalizing n with
  | zero =>
    rw [digits, if_pos (by omega)]
    apply Nat.le_refl
  | succ w ih =>
    rw [digits]
    split
    · simp
    · have hdiv : n / 10 < 10 ^ (w + 1) := by
        apply Nat.div_lt_of_lt_mul
        rw [Nat.mul_comm, ← Nat.pow_succ]
        apply h
      have hlength := ih hdiv
      rw [List.length_append, List.length_singleton]
      omega

theorem length_padded {n w : Nat} (h : n < 10 ^ (w + 1)) :
  (padded (w + 1) n).length = w + 1
  := by
  have hlength := length_digits_le h
  rw [padded, List.length_append, List.length_replicate]
  omega

theorem isDigits_padded (width n : Nat) :
  (padded width n).IsDigits
  := by
  intro c hc
  rcases List.mem_append.1 hc with hc | hc
  · rw [List.eq_of_mem_replicate hc]
    rfl
  · apply isDigit_of_mem_digits hc

theorem value_padded (width n : Nat) :
  value (padded width n) = n
  := by
  have hzeros : ∀ k, value (List.replicate k '0') = 0 := by
    intro k
    induction k with
    | zero => rfl
    | succ k ih =>
      rw [List.replicate_succ', value_concat, ih]
      rfl
  rw [padded, value_append, hzeros, value_digits, Nat.zero_mul, Nat.zero_add]

end Decimal

end PerfGate
