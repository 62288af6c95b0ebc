import Mathlib.Tactic.Use
import PerfGate.Proofs.Text.Pieces

/-!
# Fields

Texts without spaces, tabs and line ends are found again between the spaces of a line, and what
stands between them are such texts (`Text.IsField`).  A mark without a space cannot reach over one.
-/

namespace PerfGate

namespace Text

/-! ### Fields -/

/-- Whether a text can stand as a field of a line. -/
def IsField (t : Text) : Prop := t ≠ [] ∧ ∀ c ∈ t, c ∉ [' ', '\t', '\n', '\r']

instance (t : Text) : Decidable t.IsField :=
  have : Decidable (∀ c ∈ t, c ∉ [' ', '\t', '\n', '\r']) := List.decidableBAll _ t
  inferInstanceAs (Decidable (t ≠ [] ∧ ∀ c ∈ t, c ∉ [' ', '\t', '\n', '\r']))

theorem IsField.isGap {t : Text} (h : t.IsField) {c : Char} (hc : c ∈ t) :
  Text.isGap c = false
  := by
  have hplain := h.2 c hc
  simp only [List.mem_cons, not_or] at hplain
  simp [Text.isGap, hplain.1, hplain.2.1]

theorem IsField.ne_feed_and_return {t : Text} (h : t.IsField) {c : Char} (hc : c ∈ t) :
  c ≠ '\n' ∧ c ≠ '\r'
  := by
  have hplain := h.2 c hc
  simp only [List.mem_cons, not_or] at hplain
  use hplain.2.2.1, hplain.2.2.2.1

/-- A text without blanks can stand as a field. -/
theorem isField_of_isBlank {t : Text} (hne : t ≠ []) (h : ∀ c ∈ t, isBlank c = false) :
  t.IsField
  := by
  use hne
  intro c hc hmem
  have hplain := h c hc
  simp only [List.mem_cons, List.not_mem_nil, or_false] at hmem
  rcases hmem with rfl | rfl | rfl | rfl <;> cases hplain

theorem pieces_append {p : Char → Bool} {t : Text} (ht : ∀ c ∈ t, p c = false) {sep : Char}
    (hsep : p sep = true) (rest : Text) :
  pieces p (t ++ sep :: rest) = t :: pieces p rest
  := by
  induction t with
  | nil => simp [pieces, hsep]
  | cons c t ih =>
    rw [List.cons_append, pieces, ht c List.mem_cons_self,
      ih fun d hd => ht d (List.mem_cons_of_mem c hd)]
    rfl

theorem pieces_eq_singleton {p : Char → Bool} {t : Text} (ht : ∀ c ∈ t, p c = false) :
  pieces p t = [t]
  := by
  induction t with
  | nil => rfl
  | cons c t ih =>
    rw [pieces, ht c List.mem_cons_self, ih fun d hd => ht d (List.mem_cons_of_mem c hd)]
    rfl

/-- The fields of a line are those in front of a space and those behind it. -/
theorem fields_append_space (a b : Text) :
  fields (a ++ ' ' :: b) = fields a ++ fields b
  := by
  simp only [fields, pieces_eq_splitOnP]
  rw [List.splitOnP_append_cons a b rfl, List.filter_append]

/-- A text without gaps is a field of its own, if it is not empty. -/
theorem fields_eq_of_isGap {t : Text} (h : ∀ c ∈ t, isGap c = false) :
  fields t = if t = [] then [] else [t]
  := by
  rw [fields, pieces_eq_singleton h]
  split
  · rename_i hnil
    rw [hnil]
    rfl
  · rename_i hne
    simp [hne]

theorem fields_eq_singleton {t : Text} (ht : t.IsField) :
  fields t = [t]
  := by
  rw [fields_eq_of_isGap fun c hc => ht.isGap hc, if_neg ht.1]

theorem of_mem_pieces {p : Char → Bool} {t u : Text} (h : u ∈ pieces p t) {c : Char} (hc : c ∈ u) :
  p c = false ∧ c ∈ t
  := by
  induction t generalizing u with
  | nil =>
    obtain rfl := List.mem_singleton.1 h
    cases hc
  | cons d t ih =>
    rw [pieces] at h
    split at h
    · rcases List.mem_cons.1 h with rfl | h
      · cases hc
      · exact ⟨(ih h hc).1, List.mem_cons_of_mem d (ih h hc).2⟩
    · rename_i hd
      obtain ⟨v, vs, hpieces⟩ := List.exists_cons_of_ne_nil (pieces_ne_nil p t)
      rw [hpieces] at h ih
      rcases List.mem_cons.1 h with rfl | h
      · rcases List.mem_cons.1 hc with rfl | hc
        · exact ⟨Bool.eq_false_iff.2 hd, List.mem_cons_self⟩
        · have hv := ih List.mem_cons_self hc
          exact ⟨hv.1, List.mem_cons_of_mem d hv.2⟩
      · have hvs := ih (List.mem_cons_of_mem v h) hc
        exact ⟨hvs.1, List.mem_cons_of_mem d hvs.2⟩

/-- A field of a line without line ends can stand as a field. -/
theorem isField_of_mem_fields {l t : Text} (hfeed : '\n' ∉ l) (hreturn : '\r' ∉ l)
    (h : t ∈ fields l) :
  t.IsField
  := by
  obtain ⟨hpiece, hne⟩ := List.mem_filter.1 h
  constructor
  · simpa using hne
  · intro c hc hmem
    obtain ⟨hgap, hl⟩ := of_mem_pieces hpiece hc
    simp only [List.mem_cons, List.not_mem_nil, or_false] at hmem
    rcases hmem with rfl | rfl | rfl | rfl
    · cases hgap
    · cases hgap
    · exact hfeed hl
    · exact hreturn hl

/-! ### Marks -/

/-- A mark without a space occurs on one side of a space, if at all. -/
theorem infix_append_space {mark a b : Text} (hmark : ' ' ∉ mark) (h : mark <:+: a ++ ' ' :: b) :
  mark <:+: a ∨ mark <:+: b
  := by
  obtain ⟨front, back, heq⟩ := h
  rcases List.append_eq_append_iff.1 heq with ⟨rest, ha, -⟩ | ⟨rest, hfront, hback⟩
  · left
    use front, rest, ha.symm
  · cases rest with
    | nil =>
      left
      use front, []
      simpa using hfront
    | cons c rest =>
      -- the mark ends behind the space, so it starts there as well
      rw [List.cons_append, List.cons.injEq] at hback
      obtain ⟨rfl, rfl⟩ := hback
      rcases List.append_eq_append_iff.1 hfront with ⟨cut, -, hcut⟩ | ⟨cut, -, hcut⟩
      · cases hmark (hcut ▸ List.mem_append_right _ List.mem_cons_self)
      · cases cut with
        | nil =>
          rw [List.nil_append] at hcut
          cases hmark (hcut ▸ List.mem_cons_self)
        | cons d cut =>
          rw [List.cons_append, List.cons.injEq] at hcut
          right
          use cut, back
          rw [hcut.2]

/-! ### Keys and values -/

theorem splitFirst?_append {sep : Char} {front : Text} (h : sep ∉ front) (rest : Text) :
  splitFirst? sep (front ++ sep :: rest) = some (front, rest)
  := by
  induction front with
  | nil => simp [splitFirst?]
  | cons c front ih =>
    obtain ⟨hc, hfront⟩ := not_or.1 (mt List.mem_cons.2 h)
    simp [splitFirst?, ih hfront, Ne.symm hc]

theorem behindLast?_eq_none {sep : Char} {t : Text} (h : sep ∉ t) :
  behindLast? sep t = none
  := by
  induction t with
  | nil => rfl
  | cons c t ih =>
    obtain ⟨hc, ht⟩ := not_or.1 (mt List.mem_cons.2 h)
    simp [behindLast?, ih ht, Ne.symm hc]

theorem behindLast?_append {sep : Char} {rest : Text} (h : sep ∉ rest) (front : Text) :
  behindLast? sep (front ++ sep :: rest) = some rest
  := by
  induction front with
  | nil => simp [behindLast?, behindLast?_eq_none h]
  | cons c front ih => simp [behindLast?, ih]

/-! ### Words -/

theorem words_cons_of_blank {c : Char} (hc : isBlank c = true) (t : Text) :
  words (c :: t) = words t
  := by
  rw [words, pieces, if_pos hc]
  rfl

/-- A text without blanks at the start of another is its first word, if a blank follows. -/
theorem words_append {w rest : Text} (hne : w ≠ []) (hw : ∀ c ∈ w, isBlank c = false)
    (hrest : ∀ c, rest.head? = some c → isBlank c = true) :
  words (w ++ rest) = w :: words rest
  := by
  cases rest with
  | nil =>
    rw [List.append_nil, words, pieces_eq_singleton hw]
    simp [hne, words]
  | cons c rest =>
    have hc := hrest c rfl
    rw [words_cons_of_blank hc, words, pieces_append hw hc]
    simp [hne, words]

/-- Words are read back from a line in which each stands behind a space. -/
theorem words_flatMap_space {ws : List Text}
    (h : ∀ w ∈ ws, w ≠ [] ∧ ∀ c ∈ w, isBlank c = false) {ending : Text}
    (hending : ∀ c ∈ ending, isBlank c = true) :
  words (ws.flatMap (' ' :: ·) ++ ending) = ws
  := by
  induction ws with
  | nil =>
    rw [List.flatMap_nil, List.nil_append]
    induction ending with
    | nil => rfl
    | cons c ending ih =>
      rw [words_cons_of_blank (hending c List.mem_cons_self)]
      apply ih fun d hd => hending d (List.mem_cons_of_mem c hd)
  | cons w ws ih =>
    obtain ⟨hne, hw⟩ := h w List.mem_cons_self
    have hrest : ∀ c, (ws.flatMap (' ' :: ·) ++ ending).head? = some c → isBlank c = true := by
      intro c hc
      cases ws with
      | nil => apply hending c (List.mem_of_head? hc)
      | cons w' ws =>
        obtain rfl := Option.some.inj hc
        rfl
    rw [List.flatMap_cons, List.cons_append, List.cons_append, words_cons_of_blank rfl,
      List.append_assoc, words_append hne hw hrest, ih fun w' hw' => h w' (List.mem_cons_of_mem w hw')]

end Text

end PerfGate
