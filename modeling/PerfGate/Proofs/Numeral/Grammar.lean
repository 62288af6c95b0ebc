import PerfGate.Latency
import PerfGate.Proofs.Baseline.Cells
import PerfGate.Proofs.Binary64.Reading

/-!
# The grammars of metrics

What the readers of metrics accept, as texts and exact values.  A metric value is an unsigned
decimal (`IsDecimal`), a latency such a decimal with a unit behind it (`IsLatency`), and a count a
run of digits.  Each reader accepts its grammar and nothing else, and gives what is written
correctly rounded (`unsigned?_eq_some_iff`, `microseconds?_eq_some_iff`, `natural?_eq_some_iff`).
-/

namespace PerfGate

open Binary64

namespace Numeral

/-! ### Unsigned decimals -/

/-- Whether a text is an unsigned decimal with the given value: digits, and possibly a point with
more digits behind it. -/
def IsDecimal (t : Text) (v : ℚ) : Prop :=
  ∃ whole places : Text, whole ≠ [] ∧ whole.IsDigits ∧ places.IsDigits ∧ t = written whole places
    ∧ v = (Decimal.value (whole ++ places) : ℚ) / 10 ^ places.length

theorem unsigned?_trim (t : Text) :
  unsigned? (Text.trim t) = unsigned? t
  := by
  unfold unsigned? float?
  rw [Text.trim_trim]

/-- An unsigned decimal is read if its value is in range, and then as the number that it is
correctly rounded to. -/
theorem ofNumeral?_written_eq_some_iff {whole places : Text} (hne : whole ≠ [])
    (hwhole : whole.IsDigits) (hplaces : places.IsDigits) {x : Binary64} :
  ofNumeral? (written whole places) = some x ↔
    InRange ((Decimal.value (whole ++ places) : ℚ) / 10 ^ places.length)
      ∧ Rounds false ((Decimal.value (whole ++ places) : ℚ) / 10 ^ places.length) x
  := by
  have hmagnitude : ∀ v : Nat, ((10 : Nat) : ℚ) ^ (0 - (places.length : Int)) * v =
      (v : ℚ) / 10 ^ places.length := by
    intro v
    rw [zero_sub, zpow_neg, zpow_natCast, Nat.cast_ofNat, div_eq_inv_mul]
  rw [ofNumeral?_eq_some_iff, ofText?_written hne hwhole hplaces]
  simp only [Option.some.injEq, exists_eq_left', Binary64.Numeral.magnitude]
  rw [mul_comm, hmagnitude]

/-- A metric value is an unsigned decimal with blanks around it, and nothing else. -/
theorem unsigned?_eq_some_iff {t : Text} {x : Binary64} :
  unsigned? t = some x ↔ ∃ v, IsDecimal t.trim v ∧ InRange v ∧ Rounds false v x
  := by
  constructor
  · intro h
    obtain ⟨whole, places, hne, hwhole, hplaces, htrim, -⟩ := written_of_unsigned? h
    rw [← unsigned?_trim, htrim, unsigned?_written hne hwhole hplaces,
      ofNumeral?_written_eq_some_iff hne hwhole hplaces] at h
    exact ⟨_, ⟨whole, places, hne, hwhole, hplaces, htrim, rfl⟩, h⟩
  · rintro ⟨v, ⟨whole, places, hne, hwhole, hplaces, htrim, rfl⟩, h⟩
    rw [← unsigned?_trim, htrim, unsigned?_written hne hwhole hplaces,
      ofNumeral?_written_eq_some_iff hne hwhole hplaces]
    apply h

theorem IsDecimal.exists_rounds {t : Text} {v : ℚ} (h : IsDecimal t v) (hrange : InRange v) :
  ∃ x, Rounds false v x
  := by
  obtain ⟨whole, places, -, -, -, -, rfl⟩ := h
  have hden : 0 < 10 ^ places.length := Nat.pow_pos (by decide)
  have hcast : ((10 ^ places.length : Nat) : ℚ) = 10 ^ places.length := by norm_cast
  rw [← hcast] at hrange ⊢
  exact ⟨_, (rounds_ofFraction_iff hden).2 ⟨hrange.1, rfl⟩⟩

/-! ### Whole numbers -/

/-- Whether a text is digits with at most one sign in front of them, and a number is the one they
stand for. -/
def IsWhole (t : Text) (n : Int) : Prop :=
  ∃ ds : Text, ds ≠ [] ∧ ds.IsDigits
    ∧ ((t = ds ∨ t = '+' :: ds) ∧ n = Decimal.value ds
      ∨ t = '-' :: ds ∧ n = -(Decimal.value ds : Int))

theorem takeSign_of_isDigits {ds : Text} (h : ds.IsDigits) :
  takeSign ds = (false, ds)
  := by
  cases ds with
  | nil => rfl
  | cons d ds => apply takeSign_cons (h d List.mem_cons_self)

/-- A sign is taken off, or there is none. -/
theorem eq_of_takeSign {t ds : Text} {negative : Bool} (h : takeSign t = (negative, ds)) :
  negative = false ∧ (t = ds ∨ t = '+' :: ds) ∨ negative = true ∧ t = '-' :: ds
  := by
  unfold takeSign at h
  split at h
  · obtain ⟨rfl, rfl⟩ := Prod.mk.inj h
    right
    exact ⟨rfl, rfl⟩
  · obtain ⟨rfl, rfl⟩ := Prod.mk.inj h
    left
    exact ⟨rfl, Or.inr rfl⟩
  · obtain ⟨rfl, rfl⟩ := Prod.mk.inj h
    left
    exact ⟨rfl, Or.inl rfl⟩

/-- An integer is a whole number of the 64-bit range with blanks around it, and nothing else. -/
theorem integer?_eq_some_iff {t : Text} {n : Int} :
  integer? t = some n ↔ IsWhole t.trim n ∧ inRange64 n = true
  := by
  have hread : ∀ negative ds, takeSign t.trim = (negative, ds) → (integer? t = some n ↔
      ds ≠ [] ∧ ds.IsDigits ∧ (if negative then -(Decimal.value ds : Int) else Decimal.value ds) = n
        ∧ inRange64 n = true) := by
    intro negative ds hsign
    unfold integer?
    rw [hsign]
    simp only [Option.ite_none_left_eq_some, Option.ite_none_right_eq_some, Option.some.injEq,
      Bool.or_eq_true, not_or, List.isEmpty_iff, Bool.not_eq_true', Bool.not_eq_false,
      List.all_eq_true, Text.IsDigits, and_assoc]
    constructor
    · rintro ⟨hne, hdigits, hrange, rfl⟩
      exact ⟨hne, hdigits, rfl, hrange⟩
    · rintro ⟨hne, hdigits, rfl, hrange⟩
      exact ⟨hne, hdigits, hrange, rfl⟩
  constructor
  · intro h
    obtain ⟨hne, hdigits, hvalue, hrange⟩ := (hread _ _ rfl).1 h
    refine ⟨⟨_, hne, hdigits, ?_⟩, hrange⟩
    rcases eq_of_takeSign (t := t.trim) rfl with ⟨hsign, htext⟩ | ⟨hsign, htext⟩
    · rw [hsign] at hvalue
      left
      exact ⟨htext, hvalue.symm⟩
    · rw [hsign] at hvalue
      right
      exact ⟨htext, hvalue.symm⟩
  · rintro ⟨⟨ds, hne, hdigits, ⟨htext | htext, hvalue⟩ | ⟨htext, hvalue⟩⟩, hrange⟩
    · apply (hread false ds (by rw [htext, takeSign_of_isDigits hdigits])).2
      exact ⟨hne, hdigits, hvalue.symm, hrange⟩
    · apply (hread false ds (by rw [htext, takeSign])).2
      exact ⟨hne, hdigits, hvalue.symm, hrange⟩
    · apply (hread true ds (by rw [htext, takeSign])).2
      exact ⟨hne, hdigits, hvalue.symm, hrange⟩

/-- Digits without a sign stand for their value. -/
theorem isWhole_iff_of_isDigits {t : Text} (h : t.IsDigits) {n : Int} :
  IsWhole t n ↔ t ≠ [] ∧ n = Decimal.value t
  := by
  constructor
  · rintro ⟨ds, hne, -, ⟨rfl | rfl, rfl⟩ | ⟨rfl, rfl⟩⟩
    · exact ⟨hne, rfl⟩
    · cases h '+' List.mem_cons_self
    · cases h '-' List.mem_cons_self
  · rintro ⟨hne, rfl⟩
    exact ⟨t, hne, h, Or.inl ⟨Or.inl rfl, rfl⟩⟩

/-- A count is a run of digits with blanks around it, if it is a 64-bit number. -/
theorem natural?_eq_some_iff {t : Text} {n : Nat} :
  natural? t = some n ↔
    t.trim ≠ [] ∧ t.trim.IsDigits ∧ Decimal.value t.trim = n ∧ n ≤ 2 ^ 63 - 1
  := by
  have hrange : ∀ k : Nat, inRange64 k = true ↔ k ≤ 2 ^ 63 - 1 := by
    intro k
    simp only [inRange64, Bool.and_eq_true, decide_eq_true_eq]
    omega
  simp only [natural?, Option.ite_none_left_eq_some, Option.map_eq_some_iff, Bool.or_eq_true,
    not_or, List.isEmpty_iff, Bool.not_eq_true', Bool.not_eq_false, List.all_eq_true,
    integer?_eq_some_iff, Text.trim_trim]
  constructor
  · rintro ⟨⟨hne, hdigits⟩, k, ⟨hwhole, hk⟩, rfl⟩
    obtain ⟨-, rfl⟩ := (isWhole_iff_of_isDigits hdigits).1 hwhole
    exact ⟨hne, hdigits, rfl, (hrange _).1 hk⟩
  · rintro ⟨hne, hdigits, rfl, hk⟩
    exact ⟨⟨hne, hdigits⟩, Decimal.value t.trim,
      ⟨(isWhole_iff_of_isDigits hdigits).2 ⟨hne, rfl⟩, (hrange _).2 hk⟩, rfl⟩

end Numeral

namespace Latency

open Numeral

/-! ### Latencies -/

/-- The units of latencies, each with the number of microseconds it is. -/
def unitScales : List (Text × ℚ) :=
  [("ns".toList, 1 / 1000), ("us".toList, 1), ("ms".toList, 1000), ("s".toList, 1000000)]

/-- Whether a text is a latency, spaces, tabs and the case of letters apart: an unsigned decimal
with the given value and a unit of the given number of microseconds behind it. -/
def IsLatency (t : Text) (v scale : ℚ) : Prop :=
  ∃ number unit : Text, Text.lower (Text.strip [' ', '\t'] t) = number ++ unit
    ∧ IsDecimal number v ∧ (unit, scale) ∈ unitScales

theorem exists_factor_of_mem {unit : Text} {scale : ℚ} (h : (unit, scale) ∈ unitScales) :
  ∃ factor, unitFactor? unit = some factor ∧ Rounds false scale factor
  := by
  have hthousandth : Rounds false (1 / 1000) (.ofFraction 1 1000) := by
    have hfraction : Rounds false (((1 : Nat) : ℚ) / (1000 : Nat)) (.ofFraction 1 1000) := by
      apply (rounds_ofFraction_iff (by decide)).2
      refine ⟨?_, rfl⟩
      have hone := cast_lt_overflow (n := 1) (by decide)
      rw [Nat.cast_one] at hone ⊢
      rw [Nat.cast_ofNat]
      linarith
    rw [Nat.cast_one, Nat.cast_ofNat] at hfraction
    apply hfraction
  simp only [unitScales, List.mem_cons, Prod.mk.injEq, List.not_mem_nil, or_false] at h
  rcases h with ⟨rfl, rfl⟩ | ⟨rfl, rfl⟩ | ⟨rfl, rfl⟩ | ⟨rfl, rfl⟩
  · exact ⟨_, rfl, hthousandth⟩
  · exact ⟨_, rfl, by simpa using rounds_ofInt (n := 1) (by decide)⟩
  · exact ⟨_, rfl, by simpa using rounds_ofInt (n := 1000) (by decide)⟩
  · exact ⟨_, rfl, by simpa using rounds_ofInt (n := 1000000) (by decide)⟩

theorem exists_mem_of_unitFactor? {unit : Text} {factor : Binary64}
    (h : unitFactor? unit = some factor) :
  ∃ scale, (unit, scale) ∈ unitScales
  := by
  unfold unitFactor? at h
  simp only [beq_iff_eq] at h
  unfold unitScales
  split at h
  · rename_i hunit
    use 1 / 1000
    simp [hunit]
  · split at h
    · rename_i hunit
      use 1
      simp [hunit]
    · split at h
      · rename_i hunit
        use 1000
        simp [hunit]
      · split at h
        · rename_i hunit
          use 1000000
          simp [hunit]
        · cases h

/-- A unit is one of the four, and its factor is the number of microseconds correctly rounded. -/
theorem unitFactor?_eq_some_iff {unit : Text} {factor : Binary64} :
  unitFactor? unit = some factor ↔ ∃ scale, (unit, scale) ∈ unitScales ∧ Rounds false scale factor
  := by
  constructor
  · intro h
    obtain ⟨scale, hunit⟩ := exists_mem_of_unitFactor? h
    obtain ⟨factor', hfactor, hrounds⟩ := exists_factor_of_mem hunit
    obtain rfl := Option.some.inj (h.symm.trans hfactor)
    exact ⟨scale, hunit, hrounds⟩
  · rintro ⟨scale, hunit, hrounds⟩
    obtain ⟨factor', hfactor, hrounds'⟩ := exists_factor_of_mem hunit
    rw [hfactor, hrounds.unique hrounds']

/-- A unit starts with a letter. -/
theorem head?_of_mem_unitScales {unit : Text} {scale : ℚ} (h : (unit, scale) ∈ unitScales)
    {c : Char} (hc : unit.head? = some c) :
  c ∈ ['n', 'u', 'm', 's']
  := by
  simp only [unitScales, List.mem_cons, Prod.mk.injEq, List.not_mem_nil, or_false] at h
  rcases h with ⟨rfl, -⟩ | ⟨rfl, -⟩ | ⟨rfl, -⟩ | ⟨rfl, -⟩ <;>
    · obtain rfl := Option.some.inj hc
      decide

/-! ### The decimal at the start of a text -/

/-- Digits with no point behind them are a decimal of their own. -/
theorem unsignedLength_digits_append {whole rest : Text} (hne : whole ≠ [])
    (hwhole : whole.IsDigits) (hdigit : ∀ c, rest.head? = some c → Text.isDigit c = false)
    (hpoint : ∀ places, rest ≠ '.' :: places) :
  unsignedLength (whole ++ rest) = whole.length
  := by
  unfold unsignedLength
  rw [takeWhile_isDigit hwhole hdigit, dropWhile_isDigit hwhole hdigit]
  dsimp only
  rw [if_neg (by simpa using hne)]
  split
  · rename_i places
    cases hpoint places rfl
  · rfl

/-- A text starts with an unsigned decimal as long as its unsigned length, unless that is zero. -/
theorem exists_written_append {t : Text} (h : unsignedLength t ≠ 0) :
  ∃ whole places rest : Text, whole ≠ [] ∧ whole.IsDigits ∧ places.IsDigits
    ∧ t = written whole places ++ rest ∧ unsignedLength t = (written whole places).length
  := by
  have hdigits := isDigits_takeWhile t
  have hsplit : t.takeWhile Text.isDigit ++ t.dropWhile Text.isDigit = t :=
    List.takeWhile_append_dropWhile
  have hwhole : t.takeWhile Text.isDigit ≠ [] := by
    intro hnone
    apply h
    simp [unsignedLength, hnone]
  by_cases hpoint : ∃ rest, t.dropWhile Text.isDigit = '.' :: rest
  · obtain ⟨rest, hrest⟩ := hpoint
    have hplaces : rest.takeWhile Text.isDigit ≠ [] := by
      intro hnone
      apply h
      simp [unsignedLength, hrest, hnone]
    refine ⟨_, _, rest.dropWhile Text.isDigit, hwhole, hdigits, isDigits_takeWhile rest, ?_, ?_⟩
    · rw [written_of_ne_nil _ hplaces, List.append_assoc, List.cons_append,
        List.takeWhile_append_dropWhile, ← hrest, hsplit]
    · rw [written_of_ne_nil _ hplaces]
      simp [unsignedLength, hrest, hwhole, hplaces]
      omega
  · have hdigit : ∀ c, (t.dropWhile Text.isDigit).head? = some c → Text.isDigit c = false := by
      intro c hc
      have hnot := List.head?_dropWhile_not Text.isDigit t
      rw [hc] at hnot
      simpa using hnot
    refine ⟨_, [], t.dropWhile Text.isDigit, hwhole, hdigits, nofun, ?_, ?_⟩
    · rw [written_nil, hsplit]
    · have hlength := unsignedLength_digits_append hwhole hdigits hdigit (not_exists.1 hpoint)
      rw [hsplit] at hlength
      rw [hlength, written_nil]

/-- The unsigned length of a decimal with a unit behind it is the length of the decimal. -/
theorem unsignedLength_written_append {whole places unit : Text} {scale : ℚ} (hne : whole ≠ [])
    (hwhole : whole.IsDigits) (hplaces : places.IsDigits) (hunit : (unit, scale) ∈ unitScales) :
  unsignedLength (written whole places ++ unit) = (written whole places).length
  := by
  have hdigit : ∀ c, unit.head? = some c → Text.isDigit c = false := by
    intro c hc
    have hmem := head?_of_mem_unitScales hunit hc
    fin_cases hmem <;> rfl
  by_cases hnone : places = []
  · rw [hnone, written_nil]
    apply unsignedLength_digits_append hne hwhole hdigit
    rintro rest rfl
    have hmem := head?_of_mem_unitScales hunit (c := '.') rfl
    revert hmem
    decide
  · apply unsignedLength_append hne hwhole hnone hplaces hdigit

/-- A latency is an unsigned decimal in range with a unit behind it, and nothing else. -/
theorem microseconds?_eq_some_iff {t : Text} {y : Binary64} :
  microseconds? t = some y ↔
    ∃ v scale x factor, IsLatency t v scale ∧ InRange v ∧ Rounds false v x
      ∧ Rounds false scale factor ∧ y = x.mul factor
  := by
  constructor
  · intro h
    obtain ⟨n, factor, x, hn, hne, hfactor, hx, rfl⟩ := SheetRow.exists_of_microseconds? h
    obtain ⟨whole, places, unit, hwhole, hdigits, hdigits', htext, hlength⟩ :=
      exists_written_append (hn ▸ hne)
    rw [hn, hlength, htext, List.drop_left] at hfactor
    rw [hn, hlength, htext, List.take_left] at hx
    obtain ⟨scale, hunit, hscale⟩ := unitFactor?_eq_some_iff.1 hfactor
    obtain ⟨v, hv, hrange, hrounds⟩ := unsigned?_eq_some_iff.1 hx
    rw [trim_written hdigits hdigits'] at hv
    exact ⟨v, scale, x, factor, ⟨_, unit, htext, hv, hunit⟩, hrange, hrounds, hscale, rfl⟩
  · rintro ⟨v, scale, x, factor, ⟨number, unit, htext, hv, hunit⟩, hrange, hrounds, hscale, rfl⟩
    obtain ⟨whole, places, hne, hdigits, hdigits', rfl, -⟩ := id hv
    have hlength := unsignedLength_written_append hne hdigits hdigits' hunit
    have hfactor := unitFactor?_eq_some_iff.2 ⟨scale, hunit, hscale⟩
    have hx : unsigned? (written whole places) = some x := by
      apply unsigned?_eq_some_iff.2
      rw [trim_written hdigits hdigits']
      exact ⟨v, hv, hrange, hrounds⟩
    have hpos : (written whole places).length ≠ 0 := by
      obtain ⟨d, rest, -, hrest⟩ := exists_cons_written hne hdigits places
      rw [hrest]
      apply Nat.succ_ne_zero
    unfold microseconds?
    simp only [htext, hlength, hpos, if_false, List.drop_left, List.take_left, hfactor, hx]
    rfl

end Latency

namespace Numeral

open Latency

/-! ### The readers of metrics -/

theorem inRange_of_zero_or_isNormal {v : ℚ} (h : v = 0 ∨ IsNormal v) :
  InRange v
  := by
  rcases h with rfl | hnormal
  · apply inRange_zero
  · apply inRange_of_isNormal hnormal

/-- A latency and a metric value are read only if they follow their grammar.  If they do, and the
decimal is zero or between the least and the greatest normal number, they are read, as the decimal
correctly rounded, a latency times the factor of its unit.  A count is read if and only if it is a
run of digits of at most `2 ^ 63 - 1`, and then as its value. -/
theorem readers_follow_grammars (t : Text) :
  (∀ y, microseconds? t = some y → ∃ v scale, IsLatency t v scale)
    ∧ (∀ v scale, IsLatency t v scale → v = 0 ∨ IsNormal v →
      ∃ x factor, Rounds false v x ∧ Rounds false scale factor
        ∧ microseconds? t = some (x.mul factor))
    ∧ (∀ x, unsigned? t = some x → ∃ v, IsDecimal t.trim v)
    ∧ (∀ v, IsDecimal t.trim v → v = 0 ∨ IsNormal v → ∃ x, Rounds false v x ∧ unsigned? t = some x)
    ∧ ∀ n, natural? t = some n ↔
      t.trim ≠ [] ∧ t.trim.IsDigits ∧ Decimal.value t.trim = n ∧ n ≤ 2 ^ 63 - 1
  := by
  refine ⟨?_, ?_, ?_, ?_, fun n => natural?_eq_some_iff⟩
  · intro y hy
    obtain ⟨v, scale, -, -, htext, -⟩ := microseconds?_eq_some_iff.1 hy
    use v, scale
  · intro v scale htext hv
    have hrange := inRange_of_zero_or_isNormal hv
    obtain ⟨number, unit, -, hnumber, hunit⟩ := id htext
    obtain ⟨x, hx⟩ := hnumber.exists_rounds hrange
    obtain ⟨factor, -, hfactor⟩ := exists_factor_of_mem hunit
    use x, factor, hx, hfactor
    apply microseconds?_eq_some_iff.2
    use v, scale, x, factor
  · intro x hx
    obtain ⟨v, hv, -⟩ := unsigned?_eq_some_iff.1 hx
    use v
  · intro v htext hv
    have hrange := inRange_of_zero_or_isNormal hv
    obtain ⟨x, hx⟩ := htext.exists_rounds hrange
    use x, hx
    apply unsigned?_eq_some_iff.2
    use v

theorem isNormal_of_le {v : ℚ} (hone : 1 ≤ v) (h : v ≤ 2 ^ 52) :
  IsNormal v
  := by
  have hlow : (1 : ℚ) ≤ 2 ^ 1022 := one_le_pow₀ (by norm_num)
  have hhigh : (1 : ℚ) ≤ 2 ^ 971 := one_le_pow₀ (by norm_num)
  constructor
  · exact (div_le_one_of_le₀ hlow (by positivity)).trans hone
  · calc v
      _ ≤ 2 ^ 53 - 1 := h.trans (by norm_num)
      _ ≤ (2 ^ 53 - 1) * 2 ^ 971 := le_mul_of_one_le_right (by norm_num) hhigh

/-- Twelve and a half milliseconds, with blanks and in upper case. -/
theorem readers_follow_grammars_spaced :
  IsLatency "1\t2.5 MS ".toList (25 / 2) 1000 ∧ IsNormal (25 / 2)
    ∧ (∃ x factor, Rounds false (25 / 2) x ∧ Rounds false 1000 factor
      ∧ microseconds? "1\t2.5 MS ".toList = some (x.mul factor))
    ∧ ∃ x, Rounds false (25 / 2) x ∧ unsigned? "\n12.5 ".toList = some x
  := by
  have hnormal : IsNormal (25 / 2) := isNormal_of_le (by norm_num) (by norm_num)
  have hvalue : Decimal.value ("12".toList ++ "5".toList) = 125 := by decide
  have hdecimal : IsDecimal "12.5".toList (25 / 2) := by
    refine ⟨"12".toList, "5".toList, by decide, ?_, ?_, by decide, ?_⟩
    · apply List.all_eq_true.1
      decide
    · apply List.all_eq_true.1
      decide
    · rw [hvalue, show "5".toList.length = 1 from rfl]
      norm_num
  have hlatency : IsLatency "1\t2.5 MS ".toList (25 / 2) 1000 :=
    ⟨"12.5".toList, "ms".toList, by decide, hdecimal, by simp [unitScales]⟩
  use hlatency, hnormal
  constructor
  · exact (readers_follow_grammars "1\t2.5 MS ".toList).2.1 _ _ hlatency (Or.inr hnormal)
  · exact (readers_follow_grammars "\n12.5 ".toList).2.2.2.1 _ hdecimal (Or.inr hnormal)

end Numeral

end PerfGate
