import Mathlib.Data.List.TakeWhile
import PerfGate.Numeral
import PerfGate.Proofs.Text.Decimal
import PerfGate.Proofs.Text.Parts

/-!
# What a metric value is read as

`Numeral.unsigned?` accepts digits with at most one point between them, and nothing else
(`written_of_unsigned?`).  What it reads is the number nearest to the digits over a power of
ten with one zero for each digit behind the point.
-/

namespace PerfGate

namespace Numeral

open Binary64

/-! ### Digits with a point -/

/-- The unsigned decimal with some digits in front of the point and some behind it; without
digits behind it there is no point. -/
def written (whole places : Text) : Text :=
  if places = [] then whole else whole ++ '.' :: places

theorem written_nil (whole : Text) :
  written whole [] = whole
  := if_pos rfl

theorem written_of_ne_nil (whole : Text) {places : Text} (h : places ≠ []) :
  written whole places = whole ++ '.' :: places
  := if_neg h

theorem takeWhile_isDigit {ds : Text} (h : ds.IsDigits) {rest : Text}
    (hrest : ∀ c, rest.head? = some c → Text.isDigit c = false) :
  (ds ++ rest).takeWhile Text.isDigit = ds
  := by
  rw [List.takeWhile_append_of_pos h]
  cases rest with
  | nil => simp
  | cons c rest => simp [hrest c rfl]

theorem dropWhile_isDigit {ds : Text} (h : ds.IsDigits) {rest : Text}
    (hrest : ∀ c, rest.head? = some c → Text.isDigit c = false) :
  (ds ++ rest).dropWhile Text.isDigit = rest
  := by
  rw [List.dropWhile_append_of_pos h]
  cases rest with
  | nil => rfl
  | cons c rest => simp [hrest c rfl]

theorem isDigits_takeWhile (t : Text) :
  Text.IsDigits (t.takeWhile Text.isDigit)
  := by
  intro c hc
  apply List.mem_takeWhile_imp hc

/-- A text that is an unsigned decimal as a whole is digits with at most one point. -/
theorem exists_written {t : Text} (hne : t ≠ []) (h : unsignedLength t = t.length) :
  ∃ whole places : Text, whole ≠ [] ∧ whole.IsDigits ∧ places.IsDigits ∧ t = written whole places
  := by
  have hsplit : t.takeWhile Text.isDigit ++ t.dropWhile Text.isDigit = t := List.takeWhile_append_dropWhile
  have hlength := congrArg List.length hsplit
  have hpos := List.length_pos_iff.2 hne
  rw [List.length_append] at hlength
  unfold unsignedLength at h
  dsimp only at h
  split at h
  · omega
  · rename_i hwhole
    have hwhole : t.takeWhile Text.isDigit ≠ [] := by simpa using hwhole
    split at h
    · rename_i rest hrest
      rw [hrest] at hsplit hlength
      split at h
      · omega
      · rename_i hplaces
        have hplaces : rest.takeWhile Text.isDigit ≠ [] := by simpa using hplaces
        have hall : rest.takeWhile Text.isDigit = rest := by
          apply (List.takeWhile_prefix _).eq_of_length
          rw [List.length_cons] at hlength
          omega
        rw [hall] at hplaces
        use t.takeWhile Text.isDigit, rest, hwhole, isDigits_takeWhile t
        constructor
        · rw [← hall]
          apply isDigits_takeWhile
        · rw [written_of_ne_nil _ hplaces, hsplit]
    · have hnone : t.dropWhile Text.isDigit = [] := List.length_eq_zero_iff.1 (by omega)
      rw [hnone, List.append_nil] at hsplit
      use t.takeWhile Text.isDigit, [], hwhole, isDigits_takeWhile t
      constructor
      · intro c hc
        cases hc
      · rw [written_nil, hsplit]

theorem exists_cons_written {whole : Text} (hne : whole ≠ []) (hwhole : whole.IsDigits)
    (places : Text) :
  ∃ d rest, Text.isDigit d = true ∧ written whole places = d :: rest
  := by
  obtain ⟨d, whole, rfl⟩ := List.exists_cons_of_ne_nil hne
  have hd := hwhole d List.mem_cons_self
  unfold written
  split
  · use d, whole, hd
  · use d, whole ++ '.' :: places, hd
    rfl

theorem mem_written {whole places : Text} (hwhole : whole.IsDigits) (hplaces : places.IsDigits)
    {c : Char} (hc : c ∈ written whole places) :
  Text.isDigit c = true ∨ c = '.'
  := by
  unfold written at hc
  split at hc
  · left
    apply hwhole c hc
  · rcases List.mem_append.1 hc with hc | hc
    · left
      apply hwhole c hc
    · rcases List.mem_cons.1 hc with hc | hc
      · right
        apply hc
      · left
        apply hplaces c hc

theorem isBlank_of_mem_written {whole places : Text} (hwhole : whole.IsDigits)
    (hplaces : places.IsDigits) {c : Char} (hc : c ∈ written whole places) :
  Text.isBlank c = false
  := by
  rcases mem_written hwhole hplaces hc with hdigit | rfl
  · apply Text.isBlank_of_isDigit hdigit
  · rfl

theorem trim_written {whole places : Text} (hwhole : whole.IsDigits) (hplaces : places.IsDigits) :
  Text.trim (written whole places) = written whole places
  := by
  apply Text.trim_eq_self
  · intro c hc
    apply isBlank_of_mem_written hwhole hplaces (List.mem_of_head? hc)
  · intro c hc
    apply isBlank_of_mem_written hwhole hplaces (List.mem_of_getLast? hc)

/-- An unsigned decimal starts with a digit. -/
theorem exists_head?_of_unsignedLength {t : Text} (h : unsignedLength t ≠ 0) :
  ∃ d, t.head? = some d ∧ Text.isDigit d = true
  := by
  cases t with
  | nil => cases h rfl
  | cons d t =>
    use d, rfl
    by_contra hd
    apply h
    unfold unsignedLength
    rw [List.takeWhile_cons_of_neg hd]
    rfl

/-- The unsigned decimal at the start of a text ends where the digits behind the point do. -/
theorem unsignedLength_append {whole places rest : Text} (hne : whole ≠ [])
    (hwhole : whole.IsDigits) (hne' : places ≠ []) (hplaces : places.IsDigits)
    (hrest : ∀ c, rest.head? = some c → Text.isDigit c = false) :
  unsignedLength (written whole places ++ rest) = (written whole places).length
  := by
  have hpoint : ∀ c, ('.' :: (places ++ rest)).head? = some c → Text.isDigit c = false := by
    intro c hc
    obtain rfl := Option.some.inj hc
    rfl
  rw [written_of_ne_nil _ hne', List.append_assoc, List.cons_append]
  unfold unsignedLength
  simp only [takeWhile_isDigit hwhole hpoint, dropWhile_isDigit hwhole hpoint,
    takeWhile_isDigit hplaces hrest, List.isEmpty_iff, hne, hne', if_false, List.length_append,
    List.length_cons]
  omega

/-! ### Their value -/

theorem not_isDigit_point : Text.isDigit '.' = false := rfl

theorem takeMantissa?_written {whole places : Text} (hne : whole ≠ []) (hwhole : whole.IsDigits)
    (hplaces : places.IsDigits) :
  takeMantissa? Text.isDigit (written whole places) = some (whole, places, [])
  := by
  unfold written
  split
  · rename_i hnone
    unfold takeMantissa?
    rw [List.takeWhile_eq_self_iff.2 hwhole, List.dropWhile_eq_nil_iff.2 hwhole, hnone]
    simp [hne]
  · have hpoint : ∀ c, ('.' :: places).head? = some c → Text.isDigit c = false := by
      rintro c hc
      obtain rfl := Option.some.inj hc
      apply not_isDigit_point
    unfold takeMantissa?
    rw [takeWhile_isDigit hwhole hpoint, dropWhile_isDigit hwhole hpoint]
    simp only [List.takeWhile_eq_self_iff.2 hplaces, List.dropWhile_eq_nil_iff.2 hplaces]
    simp [hne]

/-- Digits with a point determine the digits in front of it and behind it. -/
theorem written_inj {whole places whole' places' : Text} (hne : whole ≠ [])
    (hwhole : whole.IsDigits) (hplaces : places.IsDigits) (hne' : whole' ≠ [])
    (hwhole' : whole'.IsDigits) (hplaces' : places'.IsDigits)
    (h : written whole places = written whole' places') :
  whole = whole' ∧ places = places'
  := by
  have hmantissa := takeMantissa?_written hne hwhole hplaces
  rw [h, takeMantissa?_written hne' hwhole' hplaces'] at hmantissa
  simp only [Option.some.injEq, Prod.mk.injEq, and_true] at hmantissa
  use hmantissa.1.symm, hmantissa.2.symm

/-- A text that ends with a point is no digits with a point between them. -/
theorem concat_point_ne_written {whole places : Text} (hwhole : whole.IsDigits)
    (hplaces : places.IsDigits) (front : Text) :
  front ++ ['.'] ≠ written whole places
  := by
  intro h
  have hlast : ∀ c, (written whole places).getLast? = some c → Text.isDigit c = true := by
    intro c hc
    unfold written at hc
    split at hc
    · apply hwhole c (List.mem_of_getLast? hc)
    · rename_i hne
      obtain ⟨p, ps, rfl⟩ := List.exists_cons_of_ne_nil hne
      rw [List.getLast?_append, List.getLast?_cons_cons] at hc
      rw [Option.or_of_isSome (by simp)] at hc
      apply hplaces c (List.mem_of_getLast? hc)
  have hpoint : Text.isDigit '.' = true := by
    apply hlast
    rw [← h, List.getLast?_concat]
  cases hpoint

/-- If the beginning of digits with a point is itself such digits, it ends among those in front
of the point or among those behind it. -/
theorem take_written {front behind whole places : Text} {n : Nat} (hnil : front ≠ [])
    (hfront : front.IsDigits) (hbehind : behind.IsDigits) (hne : whole ≠ [])
    (hwhole : whole.IsDigits) (hplaces : places.IsDigits)
    (h : (front ++ '.' :: behind).take n = written whole places) :
  (n ≤ front.length ∧ front.take n = whole ∧ [] = places)
    ∨ (front.length + 1 < n ∧ front = whole ∧ behind.take (n - front.length - 1) = places)
  := by
  have hcases : n ≤ front.length ∨ n = front.length + 1 ∨ front.length + 1 < n := by omega
  rcases hcases with hle | rfl | hlt
  · left
    have hnone : Text.IsDigits [] := fun c hc => by cases hc
    rw [List.take_append_of_le_length hle, ← written_nil (front.take n)] at h
    have htake : front.take n ≠ [] := by
      rintro htake
      obtain ⟨d, rest, -, hrest⟩ := exists_cons_written hne hwhole places
      rw [htake, written_nil, hrest] at h
      cases h
    exact ⟨hle, written_inj htake (hfront.take n) hnone hne hwhole hplaces h⟩
  · -- what ends with the point is no number
    have hpoint : (front ++ '.' :: behind).take (front.length + 1) = front ++ ['.'] := by
      rw [List.take_length_add_append]
      rfl
    cases concat_point_ne_written hwhole hplaces front (hpoint.symm.trans h)
  · right
    have htake : (front ++ '.' :: behind).take n =
        front ++ '.' :: behind.take (n - front.length - 1) := by
      obtain ⟨m, hm⟩ : ∃ m, n - front.length = m + 1 := ⟨n - front.length - 1, by omega⟩
      rw [List.take_append, List.take_of_length_le (by omega), hm, List.take_succ_cons,
        Nat.add_sub_cancel]
    have hsome : behind.take (n - front.length - 1) ≠ [] := by
      intro hnone
      rw [hnone] at htake
      cases concat_point_ne_written hwhole hplaces front (htake.symm.trans h)
    rw [htake, ← written_of_ne_nil front hsome] at h
    exact ⟨hlt, written_inj hnil hfront (hbehind.take _) hne hwhole hplaces h⟩

theorem takeSign_cons {d : Char} (hd : Text.isDigit d = true) (rest : Text) :
  takeSign (d :: rest) = (false, d :: rest)
  := by
  unfold takeSign
  split
  · rename_i heq
    obtain ⟨rfl, -⟩ := List.cons.inj heq
    cases hd
  · rename_i heq
    obtain ⟨rfl, -⟩ := List.cons.inj heq
    cases hd
  · rfl

/-- Digits with a point are a decimal numeral, for their second character is no `x`. -/
theorem ofText?_written {whole places : Text} (hne : whole ≠ []) (hwhole : whole.IsDigits)
    (hplaces : places.IsDigits) :
  Numeral.ofText? (written whole places) = some
    { negative := false, mantissa := Decimal.value (whole ++ places)
      width := (whole ++ places).length, base := 10, power := 0 - places.length }
  := by
  have hdecimal : Numeral.ofText?.decimal false (written whole places) = some
      { negative := false, mantissa := Decimal.value (whole ++ places)
        width := (whole ++ places).length, base := 10, power := 0 - places.length } := by
    unfold Numeral.ofText?.decimal
    rw [takeMantissa?_written hne hwhole hplaces]
    rfl
  have hsign : takeSign (written whole places) = (false, written whole places) := by
    obtain ⟨d, rest, hd, hrest⟩ := exists_cons_written hne hwhole places
    rw [hrest, takeSign_cons hd]
  rw [← hdecimal]
  unfold Numeral.ofText?
  rw [hsign]
  split
  · rename_i negative x rest heq
    obtain ⟨rfl, htext⟩ := Prod.mk.inj heq
    have hmem : x ∈ written whole places := by
      rw [htext]
      apply List.mem_cons_of_mem _ List.mem_cons_self
    have hx := mem_written hwhole hplaces hmem
    have hplain : (x == 'x' || x == 'X') = false := by
      rcases hx with hx | rfl
      · apply Bool.eq_false_iff.2
        intro heither
        rw [Bool.or_eq_true, beq_iff_eq, beq_iff_eq] at heither
        rcases heither with rfl | rfl
        · cases hx
        · cases hx
      · rfl
    rw [hplain, htext]
    rfl
  · rename_i heq
    obtain ⟨rfl, rfl⟩ := Prod.mk.inj heq
    rfl

/-- The power of a numeral with digits behind the point is never out of its span. -/
theorem heldPower_written {width places : Nat} (hle : places ≤ width) (mantissa : Nat) :
  Numeral.heldPower
      { negative := false, mantissa, width, base := 10, power := 0 - places } = -(places : Int)
  := by
  unfold Numeral.heldPower
  dsimp only
  omega

/-- Digits with a point are read as the number nearest to them, if that is finite, and below the
normal numbers only without loss. -/
theorem ofNumeral?_written {whole places : Text} (hne : whole ≠ []) (hwhole : whole.IsDigits)
    (hplaces : places.IsDigits) :
  ofNumeral? (written whole places) =
    let num := Decimal.value (whole ++ places) * unitsPerOne
    let den := 10 ^ places.length
    let x := ofFraction (Decimal.value (whole ++ places)) den
    if isTiny num den && num % den != 0 then none else if x.isFinite then some x else none
  := by
  have hle : places.length ≤ (whole ++ places).length := by simp
  have hpower : (-(places.length : Int)).toNat = 0 := by omega
  have hscale : (- -(places.length : Int)).toNat = places.length := by omega
  rw [ofNumeral?, ofText?_written hne hwhole hplaces, Option.bind_some]
  unfold Numeral.toBinary64? Numeral.ratio
  rw [heldPower_written hle]
  simp only [hpower, hscale, Nat.pow_eq, Nat.pow_zero, Nat.mul_one, ofFraction]
  rfl

theorem isFinite_of_ofNumeral? {t : Text} {x : Binary64} (h : ofNumeral? t = some x) :
  x.isFinite = true
  := by
  obtain ⟨n, -, hn⟩ := Option.bind_eq_some_iff.1 h
  unfold Numeral.toBinary64? at hn
  dsimp only at hn
  split at hn
  · cases hn
  · split at hn
    · rename_i hfinite
      obtain rfl := Option.some.inj hn
      apply hfinite
    · cases hn

/-- What is read of digits with a point is the number nearest to them. -/
theorem eq_ofFraction_of_ofNumeral? {whole places : Text} (hne : whole ≠ [])
    (hwhole : whole.IsDigits) (hplaces : places.IsDigits) {x : Binary64}
    (h : ofNumeral? (written whole places) = some x) :
  x = ofFraction (Decimal.value (whole ++ places)) (10 ^ places.length)
  := by
  rw [ofNumeral?_written hne hwhole hplaces] at h
  dsimp only at h
  split at h
  · cases h
  · split at h
    · exact (Option.some.inj h).symm
    · cases h

/-- A metric value is digits with at most one point, and the number nearest to them. -/
theorem written_of_unsigned? {t : Text} {x : Binary64} (h : unsigned? t = some x) :
  ∃ whole places : Text, whole ≠ [] ∧ whole.IsDigits ∧ places.IsDigits
    ∧ Text.trim t = written whole places
    ∧ x = ofFraction (Decimal.value (whole ++ places)) (10 ^ places.length)
  := by
  unfold unsigned? at h
  dsimp only at h
  split at h
  · cases h
  · rename_i hbody
    rw [Bool.or_eq_true, not_or, List.isEmpty_iff, bne_iff_ne, ne_eq, Decidable.not_not] at hbody
    obtain ⟨whole, places, hne, hwhole, hplaces, htrim⟩ := exists_written hbody.1 hbody.2
    use whole, places, hne, hwhole, hplaces, htrim
    rw [float?, htrim, trim_written hwhole hplaces] at h
    apply eq_ofFraction_of_ofNumeral? hne hwhole hplaces h

/-- Digits with a point are an unsigned decimal as a whole. -/
theorem unsignedLength_written {whole places : Text} (hne : whole ≠ []) (hwhole : whole.IsDigits)
    (hplaces : places.IsDigits) :
  unsignedLength (written whole places) = (written whole places).length
  := by
  by_cases hnone : places = []
  · rw [hnone, written_nil]
    unfold unsignedLength
    rw [List.takeWhile_eq_self_iff.2 hwhole, List.dropWhile_eq_nil_iff.2 hwhole]
    simp [hne]
  · have hend : ∀ c, ([] : Text).head? = some c → Text.isDigit c = false := nofun
    have happend := unsignedLength_append hne hwhole hnone hplaces hend
    rw [List.append_nil] at happend
    apply happend

/-- Digits with a point between them are read as a metric value if they are read at all. -/
theorem unsigned?_written {whole places : Text} (hne : whole ≠ []) (hwhole : whole.IsDigits)
    (hplaces : places.IsDigits) :
  unsigned? (written whole places) = ofNumeral? (written whole places)
  := by
  have hlength := unsignedLength_written hne hwhole hplaces
  have hnil : written whole places ≠ [] := by
    obtain ⟨d, rest, -, hrest⟩ := exists_cons_written hne hwhole places
    rw [hrest]
    apply List.cons_ne_nil
  simp [unsigned?, float?, trim_written hwhole hplaces, hlength, hnil]

/-- A metric value is finite and has no sign. -/
theorem exists_finite_of_unsigned? {t : Text} {x : Binary64} (h : unsigned? t = some x) :
  ∃ u hu, x = .finite false u hu
  := by
  obtain ⟨whole, places, -, -, -, -, hx⟩ := written_of_unsigned? h
  have hfinite : x.isFinite = true := by
    unfold unsigned? at h
    dsimp only at h
    split at h
    · cases h
    · apply isFinite_of_ofNumeral? h
  rw [hx, ofFraction, ofRatio] at hfinite ⊢
  split at hfinite
  · rename_i hlimit
    rw [dif_pos hlimit]
    exact ⟨_, _, rfl⟩
  · cases hfinite

/-! ### Whole numbers -/

theorem isBlank_of_mem_signed {n : Int} {c : Char} (h : c ∈ Decimal.signed n) :
  Text.isBlank c = false
  := by
  unfold Decimal.signed at h
  split at h
  · rcases List.mem_cons.1 h with rfl | h
    · rfl
    · apply Text.isBlank_of_isDigit (Decimal.isDigits_digits _ c h)
  · apply Text.isBlank_of_isDigit (Decimal.isDigits_digits _ c h)

/-- The numeral of a 64-bit integer is read as that integer. -/
theorem integer?_signed {n : Int} (hn : inRange64 n = true) :
  integer? (Decimal.signed n) = some n
  := by
  have hdigits := Decimal.isDigits_digits n.natAbs
  have htrim : Text.trim (Decimal.signed n) = Decimal.signed n := by
    apply Text.trim_eq_self
    · intro c hc
      apply isBlank_of_mem_signed (List.mem_of_head? hc)
    · intro c hc
      apply isBlank_of_mem_signed (List.mem_of_getLast? hc)
  have hsign : takeSign (Decimal.signed n) = (decide (n < 0), Decimal.digits n.natAbs) := by
    unfold Decimal.signed
    split
    · rename_i hneg
      simp [takeSign, hneg]
    · rename_i hneg
      obtain ⟨d, rest, hcons⟩ := List.exists_cons_of_ne_nil (Decimal.digits_ne_nil n.natAbs)
      rw [hcons, takeSign_cons (hdigits d (by simp [hcons])), decide_eq_false hneg]
  have hvalue : (if decide (n < 0) then -(n.natAbs : Int) else (n.natAbs : Int)) = n := by
    split
    · rename_i hneg
      rw [decide_eq_true_iff] at hneg
      omega
    · rename_i hneg
      rw [decide_eq_true_iff] at hneg
      omega
  simp only [integer?, htrim, hsign, List.isEmpty_eq_false_iff.2 (Decimal.digits_ne_nil _),
    List.all_eq_true.2 hdigits, Decimal.value_digits, hvalue, hn, Bool.not_true, Bool.or_self,
    Bool.false_eq_true, if_false, if_true]

/-- Blanks behind an integer do not matter. -/
theorem integer?_append_of_blank {b : Text} (hb : ∀ c ∈ b, Text.isBlank c = true) (t : Text) :
  integer? (t ++ b) = integer? t
  := by
  have htrim : Text.trim (t ++ b) = Text.trim t := Text.trim_append (a := []) nofun hb t
  rw [integer?, htrim, integer?]

/-- The numeral of a 64-bit number is read as that number. -/
theorem integer?_digits {n : Nat} (hn : n < 0x8000000000000000) :
  integer? (Decimal.digits n) = some (n : Int)
  := by
  have hrange : inRange64 n = true := by
    simp only [inRange64, Bool.and_eq_true, decide_eq_true_eq]
    omega
  rw [← Decimal.signed_natCast, integer?_signed hrange]

theorem natural?_digits {n : Nat} (hn : n < 0x8000000000000000) :
  natural? (Decimal.digits n) = some n
  := by
  have hdigits := Decimal.isDigits_digits n
  have hnone : Text.IsDigits [] := fun c hc => by cases hc
  have htrim : Text.trim (Decimal.digits n) = Decimal.digits n := by
    rw [← written_nil (Decimal.digits n), trim_written hdigits hnone]
  simp [natural?, integer?_digits hn, htrim, List.all_eq_true.2 hdigits, Decimal.digits_ne_nil]

theorem inRange64_of_integer? {t : Text} {n : Int} (h : integer? t = some n) :
  inRange64 n = true
  := by
  simp only [integer?, Option.ite_none_left_eq_some, Option.ite_none_right_eq_some,
    Option.some.injEq] at h
  obtain ⟨-, hrange, rfl⟩ := h
  apply hrange

/-- A whole number that is read is a 64-bit one. -/
theorem lt_of_natural? {t : Text} {n : Nat} (h : natural? t = some n) :
  n < 0x8000000000000000
  := by
  simp only [natural?, Option.ite_none_left_eq_some] at h
  obtain ⟨k, hk, rfl⟩ := Option.map_eq_some_iff.1 h.2
  have hrange := inRange64_of_integer? hk
  simp only [inRange64, Bool.and_eq_true, decide_eq_true_eq] at hrange
  omega

end Numeral

end PerfGate
