import Mathlib.Data.List.TakeWhile
import Mathlib.Tactic.Use
import PerfGate.Text

/-!
# Parts of texts

What the searches of a text find: `startsWith` a prefix, `endsWith` a suffix and `occursIn` a
contiguous part.  Trimming takes any blanks off both ends, and it is idempotent.
-/

namespace PerfGate

namespace Text

/-! ### Prefixes and contiguous parts -/

theorem startsWith_iff {front t : Text} :
  startsWith front t = true ↔ front <+: t
  := by
  constructor
  · intro h
    obtain ⟨rest, hrest⟩ := Option.isSome_iff_exists.1 h
    use rest
    symm
    apply eq_append_of_after? hrest
  · rintro ⟨rest, rfl⟩
    rw [startsWith, after?_append]
    rfl

theorem endsWith_iff {back t : Text} :
  endsWith back t = true ↔ back <:+ t
  := by
  rw [endsWith, startsWith_iff, List.reverse_prefix]

theorem occursIn_iff {needle t : Text} :
  occursIn needle t = true ↔ needle <:+: t
  := by
  unfold occursIn
  induction t with
  | nil =>
    rw [behind?]
    apply Iff.trans (b := needle <+: []) startsWith_iff
    simp
  | cons c t ih =>
    rw [behind?, List.infix_cons_iff, ← startsWith_iff, ← ih, startsWith]
    cases after? needle (c :: t) with
    | none => simp
    | some rest => simp

/-! ### Joined texts -/

theorem join_cons_of_ne_nil (sep t : Text) {ts : List Text} (h : ts ≠ []) :
  join sep (t :: ts) = t ++ sep ++ join sep ts
  := by
  cases ts with
  | nil => cases h rfl
  | cons u us => rfl

/-- The texts in front of a joined text come with a separator behind them, those behind it with one
in front. -/
theorem join_append_cons (sep : Text) (front : List Text) (t : Text) (back : List Text) :
  join sep (front ++ t :: back) = front.flatMap (· ++ sep) ++ t ++ back.flatMap (sep ++ ·)
  := by
  induction front with
  | nil =>
    induction back generalizing t with
    | nil => simp [join]
    | cons u us ih =>
      rw [List.nil_append, join_cons_of_ne_nil _ _ (by simp), ← List.nil_append (u :: us), ih]
      simp
  | cons u us ih =>
    rw [List.cons_append, join_cons_of_ne_nil _ _ (by simp), ih]
    simp

/-! ### Trimming -/

theorem trimStart_append_of_blank {a : Text} (h : ∀ c ∈ a, isBlank c = true) (t : Text) :
  trimStart (a ++ t) = trimStart t
  := List.dropWhile_append_of_pos h

theorem trimEnd_append_of_blank {b : Text} (h : ∀ c ∈ b, isBlank c = true) (t : Text) :
  trimEnd (t ++ b) = trimEnd t
  := by
  have hrev : ∀ c ∈ b.reverse, isBlank c = true := by
    intro c hc
    apply h c (List.mem_reverse.1 hc)
  rw [trimEnd, List.reverse_append, List.dropWhile_append_of_pos hrev, trimEnd]

/-- Blanks around a text do not matter to trimming. -/
theorem trim_append {a b : Text} (ha : ∀ c ∈ a, isBlank c = true)
    (hb : ∀ c ∈ b, isBlank c = true) (t : Text) :
  trim (a ++ t ++ b) = trim t
  := by
  rw [trim, List.append_assoc, trimStart_append_of_blank ha, trim]
  by_cases ht : trimStart t = []
  · have hall : ∀ c ∈ t ++ b, isBlank c = true := by
      intro c hc
      rcases List.mem_append.1 hc with hc | hc
      · apply List.dropWhile_eq_nil_iff.1 ht c hc
      · apply hb c hc
    have hnil : trimStart (t ++ b) = [] := List.dropWhile_eq_nil_iff.2 hall
    rw [hnil, ht]
  · have happ : trimStart (t ++ b) = trimStart t ++ b := by
      unfold trimStart at ht ⊢
      rw [List.dropWhile_append, if_neg (by simpa using ht)]
    rw [happ, trimEnd_append_of_blank hb]

/-- A text with no blank at either end is trimmed. -/
theorem trim_eq_self {t : Text} (hhead : ∀ c, t.head? = some c → isBlank c = false)
    (hlast : ∀ c, t.getLast? = some c → isBlank c = false) :
  trim t = t
  := by
  have hstart : trimStart t = t := by
    cases t with
    | nil => rfl
    | cons c t => simp [trimStart, hhead c rfl]
  rw [trim, hstart]
  obtain rfl | ⟨t, c, rfl⟩ := List.eq_nil_or_concat t
  · rfl
  · simp [trimEnd, hlast c (by simp)]

theorem mem_of_mem_trim {c : Char} {t : Text} (h : c ∈ trim t) :
  c ∈ t
  := by
  have hend : c ∈ (trimStart t).reverse := (List.dropWhile_sublist _).mem (List.mem_reverse.1 h)
  apply (List.dropWhile_sublist _).mem (List.mem_reverse.1 hend)

/-- A trimmed text has no blank at either end. -/
theorem trim_trim (t : Text) :
  trim (trim t) = trim t
  := by
  apply trim_eq_self
  · intro c hc
    -- the end is cut off a text that starts with no blank
    have hprefix : trim t <+: trimStart t := by
      apply List.reverse_suffix.1
      rw [trim, trimEnd, List.reverse_reverse]
      apply List.dropWhile_suffix
    have hhead : (trimStart t).head? = some c := by
      obtain ⟨rest, hrest⟩ := hprefix
      rw [← hrest, List.head?_append, hc]
      rfl
    have hnot := List.head?_dropWhile_not isBlank t
    unfold trimStart at hhead
    rw [hhead] at hnot
    simpa using hnot
  · intro c hc
    rw [trim, trimEnd, List.getLast?_reverse] at hc
    have hnot := List.head?_dropWhile_not isBlank (trimStart t).reverse
    rw [hc] at hnot
    simpa using hnot

/-- A text is the trimmed one with blanks around it. -/
theorem exists_eq_append_trim (t : Text) :
  ∃ front back : Text, (∀ c ∈ front, isBlank c = true) ∧ (∀ c ∈ back, isBlank c = true)
    ∧ t = front ++ trim t ++ back
  := by
  let tail := (trimStart t).reverse
  have hblank : ∀ u : Text, ∀ c ∈ u.takeWhile isBlank, isBlank c = true := by
    intro u c hc
    apply List.mem_takeWhile_imp hc
  have hstart : t.takeWhile isBlank ++ trimStart t = t := List.takeWhile_append_dropWhile
  have hend : tail.takeWhile isBlank ++ tail.dropWhile isBlank = tail :=
    List.takeWhile_append_dropWhile
  have htrim : trim t ++ (tail.takeWhile isBlank).reverse = trimStart t := by
    rw [trim, trimEnd, ← List.reverse_append, hend, List.reverse_reverse]
  use t.takeWhile isBlank, (tail.takeWhile isBlank).reverse, hblank t
  constructor
  · intro c hc
    apply hblank tail c (List.mem_reverse.1 hc)
  · rw [List.append_assoc, htrim, hstart]

/-! ### Up to a character -/

/-- What is in front of the first occurrence of a character, or all if it does not occur. -/
theorem takeWhile_ne_eq_iff {c : Char} {t front : Text} :
  t.takeWhile (· != c) = front ↔ c ∉ front ∧ (t = front ∨ ∃ rest, t = front ++ c :: rest)
  := by
  constructor
  · rintro rfl
    constructor
    · intro hmem
      have hne := List.mem_takeWhile_imp hmem
      simp at hne
    · have hsplit : t.takeWhile (· != c) ++ t.dropWhile (· != c) = t :=
        List.takeWhile_append_dropWhile
      cases hrest : t.dropWhile (· != c) with
      | nil =>
        left
        rw [hrest, List.append_nil] at hsplit
        apply hsplit.symm
      | cons d rest =>
        right
        have hd : d = c := by
          have hhead := List.head?_dropWhile_not (· != c) t
          simpa [hrest] using hhead
        use rest
        rw [hrest, hd] at hsplit
        apply hsplit.symm
  · rintro ⟨hfront, ht⟩
    have hall : ∀ a ∈ front, (a != c) = true := by
      intro a ha
      rw [bne_iff_ne]
      rintro rfl
      apply hfront ha
    rcases ht with rfl | ⟨rest, rfl⟩
    · apply List.takeWhile_eq_self_iff.2 hall
    · rw [List.takeWhile_append_of_pos hall, List.takeWhile_cons_of_neg (by simp),
        List.append_nil]

theorem untilNul_eq_self {t : Text} (h : '\x00' ∉ t) :
  untilNul t = t
  := takeWhile_ne_eq_iff.2 ⟨h, .inl rfl⟩

theorem mem_of_mem_untilNul {c : Char} {t : Text} (h : c ∈ untilNul t) :
  c ∈ t
  := (List.takeWhile_prefix _).mem h

end Text

end PerfGate
