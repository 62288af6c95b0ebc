import PerfGate.Calendar
import PerfGate.Proofs.Baseline.Reload

/-!
# What a valid configuration shows

A snapshot shows the date and three settings.  A duration that can be read is a numeral, apart
from its unit and blanks, the transport and the answer of the simulator are chosen from lists,
and a moment is written with digits.  So none of them has the character that marks a table row
(`bar_notMem_shownTexts`).
-/

namespace PerfGate

/-- A character of a text belongs to a class or is not dropped with those that do. -/
theorem Text.mem_dropWhile {p : Char → Bool} {t : Text} {c : Char} (h : c ∈ t) :
  p c = true ∨ c ∈ t.dropWhile p
  := by
  rw [← List.takeWhile_append_dropWhile (p := p) (l := t)] at h
  rcases List.mem_append.1 h with hfront | hbehind
  · left
    apply List.mem_takeWhile_imp hfront
  · right
    apply hbehind

namespace Binary64

/-! ### The characters of a numeral -/

/-- Whether a character can stand in a numeral. -/
def IsNumeralChar (c : Char) : Prop :=
  isHexDigit c = true ∨ c ∈ ['+', '-', '.'] ∨ c.toLower ∈ ['x', 'p', 'e']

theorem isNumeralChar_of_isHexDigit {c : Char} (h : isHexDigit c = true) :
  IsNumeralChar c
  := .inl h

theorem isNumeralChar_of_isDigit {c : Char} (h : Text.isDigit c = true) :
  IsNumeralChar c
  := by
  have hrange : ('0' ≤ c && c ≤ '9') = true := h
  left
  rw [isHexDigit, hexValue?, if_pos hrange]
  rfl

theorem not_isNumeralChar_bar : ¬IsNumeralChar '|' := by
  unfold IsNumeralChar
  decide

theorem mem_takeSign {t : Text} {c : Char} (hc : c ∈ t) :
  IsNumeralChar c ∨ c ∈ (takeSign t).2
  := by
  unfold takeSign
  split
  · rcases List.mem_cons.1 hc with rfl | hc
    · left
      simp [IsNumeralChar]
    · right
      apply hc
  · rcases List.mem_cons.1 hc with rfl | hc
    · left
      simp [IsNumeralChar]
    · right
      apply hc
  · right
    apply hc

theorem mem_takeMantissa? {digit : Char → Bool}
    (hdigit : ∀ c, digit c = true → IsNumeralChar c) {t whole places rest : Text}
    (h : takeMantissa? digit t = some (whole, places, rest)) {c : Char} (hc : c ∈ t) :
  IsNumeralChar c ∨ c ∈ rest
  := by
  have hsplit : ∀ u : Text, c ∈ u → IsNumeralChar c ∨ c ∈ u.dropWhile digit := by
    intro u hu
    apply (Text.mem_dropWhile hu).imp_left (hdigit c)
  have hc := hsplit t hc
  unfold takeMantissa? at h
  dsimp only at h
  split at h
  · rename_i rest' hpoint
    rw [hpoint, List.mem_cons] at hc
    split at h
    · cases h
    · obtain ⟨-, hrest⟩ := Prod.mk.inj (Option.some.inj h)
      obtain ⟨-, rfl⟩ := Prod.mk.inj hrest
      rcases hc with hc | rfl | hc
      · left
        apply hc
      · left
        simp [IsNumeralChar]
      · apply hsplit rest' hc
  · split at h
    · cases h
    · obtain ⟨-, hrest⟩ := Prod.mk.inj (Option.some.inj h)
      obtain ⟨-, rfl⟩ := Prod.mk.inj hrest
      apply hc

theorem isNumeralChar_of_takePower? {mark : Char} (hmark : mark ∈ ['p', 'e']) {t : Text} {n : Int}
    (h : takePower? mark t = some n) {c : Char} (hc : c ∈ t) :
  IsNumeralChar c
  := by
  cases t with
  | nil => cases hc
  | cons a t =>
    unfold takePower? at h
    dsimp only at h
    split at h
    · rename_i hguard
      simp only [Bool.and_eq_true, beq_iff_eq, List.all_eq_true] at hguard
      obtain ⟨⟨hlower, -⟩, hdigits⟩ := hguard
      rcases List.mem_cons.1 hc with rfl | hc
      · right
        right
        rw [hlower]
        apply List.mem_cons_of_mem _ hmark
      · rcases mem_takeSign hc with hc | hc
        · apply hc
        · apply isNumeralChar_of_isDigit (hdigits c hc)
    · cases h

theorem isNumeralChar_of_decimal {negative : Bool} {t : Text} {n : Numeral}
    (h : Numeral.ofText?.decimal negative t = some n) {c : Char} (hc : c ∈ t) :
  IsNumeralChar c
  := by
  obtain ⟨⟨whole, places, rest⟩, hmantissa, h⟩ := Option.bind_eq_some_iff.1 h
  obtain ⟨power, hpower, -⟩ := Option.bind_eq_some_iff.1 h
  rcases mem_takeMantissa? (fun _ => isNumeralChar_of_isDigit) hmantissa hc with hc | hc
  · apply hc
  · apply isNumeralChar_of_takePower? (by simp) hpower hc

/-- A text that is a numeral has only characters that can stand in one. -/
theorem isNumeralChar_of_ofText? {t : Text} {n : Numeral} (h : Numeral.ofText? t = some n)
    {c : Char} (hc : c ∈ t) :
  IsNumeralChar c
  := by
  have hsign := mem_takeSign hc
  unfold Numeral.ofText? at h
  split at h
  · rename_i negative x rest htext
    rw [htext] at hsign
    rcases hsign with hsign | hsign
    · apply hsign
    · split at h
      · rename_i hx
        obtain ⟨⟨whole, places, rest'⟩, hmantissa, h⟩ := Option.bind_eq_some_iff.1 h
        obtain ⟨power, hpower, -⟩ := Option.bind_eq_some_iff.1 h
        rcases List.mem_cons.1 hsign with rfl | hc
        · apply isNumeralChar_of_isDigit rfl
        · rcases List.mem_cons.1 hc with rfl | hc
          · rw [Bool.or_eq_true, beq_iff_eq, beq_iff_eq] at hx
            right
            right
            rcases hx with rfl | rfl
            · decide
            · decide
          · rcases mem_takeMantissa? (fun _ => isNumeralChar_of_isHexDigit) hmantissa hc
              with hc | hc
            · apply hc
            · apply isNumeralChar_of_takePower? (by simp) hpower hc
      · apply isNumeralChar_of_decimal h hsign
  · rename_i htext
    rw [htext] at hsign
    rcases hsign with hsign | hsign
    · apply hsign
    · apply isNumeralChar_of_decimal h hsign

end Binary64

/-! ### Durations -/

theorem Text.mem_trim {c : Char} (hblank : Text.isBlank c = false) {t : Text} (h : c ∈ t) :
  c ∈ Text.trim t
  := by
  have hdrop : ∀ u : Text, c ∈ u → c ∈ u.dropWhile Text.isBlank := by
    intro u hu
    apply (Text.mem_dropWhile hu).resolve_left (by simp [hblank])
  rw [Text.trim, Text.trimEnd, List.mem_reverse]
  apply hdrop
  rw [List.mem_reverse]
  apply hdrop t h

theorem Numeral.bar_notMem_of_float? {t : Text} {x : Binary64} (h : Numeral.float? t = some x) :
  '|' ∉ t
  := by
  intro hbar
  obtain ⟨n, hn, -⟩ := Option.bind_eq_some_iff.1 h
  apply Binary64.not_isNumeralChar_bar
  apply Binary64.isNumeralChar_of_ofText? hn (Text.mem_trim rfl hbar)

namespace Duration

theorem mem_splitUnit {t : Text} {c : Char} (hunit : c ∉ ['s', 'm', 'h']) (hc : c ∈ t) :
  c ∈ (splitUnit t).1
  := by
  have hdrop : ∀ d, t.getLast? = some d → d ∈ ['s', 'm', 'h'] → c ∈ t.dropLast := by
    intro d hd hmem
    rw [← List.dropLast_append_getLast? d hd] at hc
    rcases List.mem_append.1 hc with hc | hc
    · apply hc
    · obtain rfl := List.mem_singleton.1 hc
      cases hunit hmem
  unfold splitUnit
  split
  · rename_i hlast
    apply hdrop _ hlast
    simp
  · rename_i hlast
    apply hdrop _ hlast
    simp
  · rename_i hlast
    apply hdrop _ hlast
    simp
  · apply hc

theorem bar_notMem_of_seconds? {t : Text} {x : Binary64} (h : seconds? t = some x) :
  '|' ∉ t
  := by
  intro hbar
  obtain ⟨value, hvalue, -⟩ := Option.bind_eq_some_iff.1 h
  apply Numeral.bar_notMem_of_float? hvalue
  apply mem_splitUnit (by decide)
  apply List.mem_map.2
  use '|', Text.mem_trim rfl hbar
  rfl

end Duration

/-! ### Configurations -/

namespace Config

/-- All constraints hold on a valid configuration. -/
theorem constraints_of_validate {c : Config} (h : c.validate = .ok ()) :
  ∀ constraint ∈ c.constraints, constraint.1 = true
  := by
  unfold validate violation? at h
  cases hfind : c.constraints.find? (!·.1) with
  | none => simpa using hfind
  | some constraint =>
    rw [hfind] at h
    cases h

end Config

theorem Moment.bar_notMem_shown (moment : Moment) :
  '|' ∉ moment.shown
  := by
  have hdigits : ∀ n, '|' ∉ Decimal.digits n := by
    intro n hmem
    have hdigit := Decimal.isDigit_of_mem_digits hmem
    cases hdigit
  have hpadded : ∀ n, '|' ∉ Decimal.padded 2 n := by
    intro n hmem
    have hdigit := Decimal.isDigits_padded 2 n _ hmem
    cases hdigit
  simp [Moment.shown, hdigits, hpadded]

/-- A snapshot under a valid configuration shows no character that marks a row. -/
theorem bar_notMem_shownTexts {c : Config} (hvalid : c.validate = .ok ()) {run : RunMeta}
    {moment : Moment} (hdate : run.date = moment.shown) :
  ∀ t ∈ shownTexts c run, '|' ∉ t
  := by
  have hconstraints := Config.constraints_of_validate hvalid
  simp only [Config.constraints, List.forall_mem_cons] at hconstraints
  obtain ⟨-, -, -, -, -, hduration, -, htransport, hmock, -⟩ := hconstraints
  have htransport := List.contains_iff_mem.1 htransport
  have hmock := List.contains_iff_mem.1 hmock
  have htransports : ∀ t ∈ Config.transports, '|' ∉ t := by decide
  have hmocks : ∀ t ∈ Config.mockScenarios, '|' ∉ t := by decide
  obtain ⟨x, hx⟩ := Option.isSome_iff_exists.1 hduration
  simp only [shownTexts, List.forall_mem_cons, List.not_mem_nil, false_implies, implies_true,
    and_true]
  constructor
  · rw [hdate]
    apply moment.bar_notMem_shown
  · use Duration.bar_notMem_of_seconds? hx, htransports _ htransport, hmocks _ hmock

end PerfGate
