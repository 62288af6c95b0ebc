import PerfGate.Text

/-!
# Decimal numerals

Whole numbers in decimal: `Decimal.digits` writes the numeral of a number without
leading zeros, `Decimal.value` reads a run of digits.  `Decimal.signed` puts a minus in
front of a negative number.
-/

namespace PerfGate

namespace Decimal

/-- The character of a digit below ten. -/
def digitChar (d : Nat) : Char := Char.ofNat (48 + d)

/-- The number that a digit stands for. -/
def digitValue (c : Char) : Nat := c.toNat - 48

/-- The numeral of a natural number. -/
def digits (n : Nat) : Text :=
  if n < 10 then [digitChar n] else digits (n / 10) ++ [digitChar (n % 10)]

/-- The numeral of an integer, with a minus if it is negative. -/
def signed (n : Int) : Text :=
  if n < 0 then '-' :: digits n.natAbs else digits n.natAbs

/-- The number that a run of digits stands for, leading zeros allowed. -/
def value (ds : Text) : Nat := ds.foldl (fun v c => 10 * v + digitValue c) 0

/-- The numeral of `n`, with zeros in front up to `width` digits. -/
def padded (width n : Nat) : Text :=
  List.replicate (width - (digits n).length) '0' ++ digits n

/-! ### Writing and reading -/

theorem digitValue_digitChar {d : Nat} (h : d < 10) :
  digitValue (digitChar d) = d
  := by
  have : ∀ d : Fin 10, digitValue (digitChar d) = d := by decide
  exact this ⟨d, h⟩

theorem isDigit_digitChar {d : Nat} (h : d < 10) :
  Text.isDigit (digitChar d) = true
  := by
  have : ∀ d : Fin 10, Text.isDigit (digitChar d) = true := by decide
  exact this ⟨d, h⟩

theorem value_append_singleton (ds : Text) (c : Char) :
  value (ds ++ [c]) = 10 * value ds + digitValue c
  := by
  simp [value]

/-- A numeral stands for the number it was written for. -/
theorem value_digits (n : Nat) :
  value (digits n) = n
  := by
  induction n using Nat.strongRecOn with
  | ind n ih =>
    rw [digits]
    split
    · rename_i h
      simp [value, digitValue_digitChar h]
    · rename_i h
      rw [value_append_singleton, ih _ (by omega), digitValue_digitChar (by omega)]
      omega

theorem digits_ne_nil (n : Nat) :
  digits n ≠ []
  := by
  rw [digits]
  split <;> simp

/-- A numeral holds digits only. -/
theorem isDigit_of_mem_digits {n : Nat} {c : Char} (h : c ∈ digits n) :
  Text.isDigit c = true
  := by
  induction n using Nat.strongRecOn with
  | ind n ih =>
    rw [digits] at h
    split at h
    · rename_i hn
      simp only [List.mem_singleton] at h
      rw [h, isDigit_digitChar hn]
    · rename_i hn
      simp only [List.mem_append, List.mem_singleton] at h
      rcases h with h | h
      · exact ih _ (by omega) h
      · rw [h, isDigit_digitChar (by omega)]

end Decimal

end PerfGate
