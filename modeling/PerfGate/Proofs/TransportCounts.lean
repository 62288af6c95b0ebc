import PerfGate.Proofs.Json
import PerfGate.Proofs.Numeral
import PerfGate.TransportCounts

/-!
# Reading backend statistics

The number of a field is looked for behind its quoted name, wherever that first occurs.  In a
well-formed object only a string can be taken for that name, or the end of one: outside of strings
there is no quote that an `h` follows (`passed_of_isValue`).  So the statistics are those of the
object's own fields if there is no such string in front of them (`ofText?_object`).
-/

namespace PerfGate

namespace TransportCounts

open Json

/-! ### What is passed over -/

/-- Whether a string could be taken for a quoted name: it is that, or it ends like that. -/
def Imitates (name body : Text) : Prop := '"' :: name <:+ '"' :: body

instance (name body : Text) : Decidable (Imitates name body) :=
  inferInstanceAs (Decidable (_ <:+ _))

/-- The name of a field, the character behind its `h` given. -/
def fieldName (d : Char) : Text := ['h', d]

/-- Whether the search for the name of a field passes over a text. -/
structure Passed (d : Char) (t : Text) : Prop where
  /-- The text does not go on with the name behind a quote. -/
  head : t.head? ≠ some 'h'
  /-- The search goes on behind the text. -/
  behind?_eq : ∀ rest : Text, rest.head? ≠ some 'h' →
    Text.behind? (quoted (fieldName d)) (t ++ rest) = Text.behind? (quoted (fieldName d)) rest

variable {d : Char}

theorem passed_nil : Passed d [] := ⟨nofun, fun _ _ => rfl⟩

theorem Passed.append {t u : Text} (ht : Passed d t) (hu : Passed d u) :
  Passed d (t ++ u)
  := by
  constructor
  · cases t with
    | nil => apply hu.head
    | cons c t => apply ht.head
  · intro rest hrest
    have hnext : (u ++ rest).head? ≠ some 'h' := by
      cases u with
      | nil => apply hrest
      | cons c u => apply hu.head
    rw [List.append_assoc, ht.behind?_eq _ hnext, hu.behind?_eq _ hrest]

theorem passed_flatMap {α : Type} {f : α → Text} {xs : List α} (h : ∀ x ∈ xs, Passed d (f x)) :
  Passed d (xs.flatMap f)
  := by
  induction xs with
  | nil => apply passed_nil
  | cons x xs ih =>
    rw [List.forall_mem_cons] at h
    apply h.1.append (ih h.2)

/-- A name does not start at a character that is no quote. -/
theorem behind?_append {t : Text} (ht : '"' ∉ t) (rest : Text) :
  Text.behind? (quoted (fieldName d)) (t ++ rest) = Text.behind? (quoted (fieldName d)) rest
  := by
  induction t with
  | nil => rfl
  | cons c t ih =>
    obtain ⟨hc, ht⟩ := not_or.1 (mt List.mem_cons.2 ht)
    rw [← ih ht]
    simp [Text.behind?, quoted, Text.after?, hc]

/-- A name starts at a quote only if its characters follow. -/
theorem behind?_quote {t : Text} (ht : ¬ fieldName d ++ ['"'] <+: t) :
  Text.behind? (quoted (fieldName d)) ('"' :: t) = Text.behind? (quoted (fieldName d)) t
  := by
  have hnone : Text.after? (quoted (fieldName d)) ('"' :: t) = none := by
    rw [← Text.startsWith_iff, Text.startsWith, Option.not_isSome_iff_eq_none] at ht
    simpa [quoted, Text.after?] using ht
  rw [Text.behind?, hnone]

/-- Whether a text has neither quotes nor the first letter of a name. -/
def IsPlain (t : Text) : Prop := ∀ c ∈ t, c ≠ '"' ∧ c ≠ 'h'

instance : DecidablePred IsPlain := fun t => List.decidableBAll _ t

theorem isPlain_append {t u : Text} :
  IsPlain (t ++ u) ↔ IsPlain t ∧ IsPlain u
  := List.forall_mem_append

theorem isPlain_of_isGap {t : Text} (h : IsGap t) :
  IsPlain t
  := by
  have hgap : IsPlain [' ', '\t', '\n', '\r'] := by decide
  intro c hc
  apply hgap c (h c hc)

theorem isPlain_of_isDigits {t : Text} (h : t.IsDigits) :
  IsPlain t
  := by
  intro c hc
  constructor
  · rintro rfl
    cases h _ hc
  · rintro rfl
    cases h _ hc

theorem isPlain_of_isNumber {t : Text} (h : IsNumber t) :
  IsPlain t
  := by
  have hsigns : ∀ sign ∈ [[], ['+'], ['-']], IsPlain sign := by decide
  have hmarks : IsPlain ['e', 'E'] := by decide
  obtain ⟨sign, fraction, exponent, n, hsign, hfraction, hexponent, rfl⟩ := h
  rw [isPlain_append, isPlain_append, isPlain_append]
  refine ⟨⟨⟨?_, isPlain_of_isDigits (Decimal.isDigits_digits n)⟩, ?_⟩, ?_⟩
  · have hsub : [[], ['-']] ⊆ [[], ['+'], ['-']] := by decide
    apply hsigns sign (hsub hsign)
  · rcases hfraction with rfl | ⟨ds, -, hds, rfl⟩
    · nofun
    · apply (isPlain_append (t := ['.'])).2 ⟨by decide, isPlain_of_isDigits hds⟩
  · rcases hexponent with rfl | ⟨mark, sign, ds, hmark, hsign, -, hds, rfl⟩
    · nofun
    · rw [isPlain_append]
      have hmark : IsPlain [mark] := List.forall_mem_singleton.2 (hmarks mark hmark)
      use (isPlain_append (t := [mark])).2 ⟨hmark, hsigns sign hsign⟩
      apply isPlain_of_isDigits hds

theorem passed_of_isPlain {t : Text} (h : IsPlain t) :
  Passed d t
  := by
  constructor
  · intro hhead
    apply (h 'h' (List.mem_of_head? hhead)).2 rfl
  · intro rest _
    apply behind?_append
    intro hmem
    apply (h '"' hmem).1 rfl

theorem Passed.between {t : Text} (h : Passed d t) {a b : Char} (ha : IsPlain [a])
    (hb : IsPlain [b]) :
  Passed d (a :: t ++ [b])
  := ((passed_of_isPlain ha).append h).append (passed_of_isPlain hb)

theorem passed_join {ts : List Text} (h : ∀ t ∈ ts, Passed d t) :
  Passed d (Text.join [','] ts)
  := by
  have hcomma : Passed d [','] := passed_of_isPlain (by decide)
  cases ts with
  | nil => apply passed_nil
  | cons t ts =>
    rw [List.forall_mem_cons] at h
    rw [← List.nil_append (t :: ts), Text.join_append_cons]
    apply h.1.append
    apply passed_flatMap
    intro u hu
    apply hcomma.append (h.2 u hu)

theorem passed_item {i : Item} (gaps : i.HasGaps) (h : Passed d i.value) :
  Passed d i.text
  := by
  have hfront : Passed d i.front := passed_of_isPlain (isPlain_of_isGap gaps.1)
  have hback : Passed d i.back := passed_of_isPlain (isPlain_of_isGap gaps.2)
  apply (hfront.append h).append hback

theorem passed_member {m : Member} (gaps : m.HasGaps) (name : Passed d (quoted m.name))
    (h : Passed d m.value) :
  Passed d m.text
  := by
  have hstart : Passed d m.start := passed_of_isPlain (isPlain_of_isGap gaps.1)
  have hmiddle : Passed d m.middle := passed_of_isPlain (isPlain_of_isGap gaps.2.1)
  have hcolon : Passed d [':'] := passed_of_isPlain (by decide)
  apply ((hstart.append name).append hmiddle).append (hcolon.append (passed_item gaps.2.2 h))

/-! ### Strings and values -/

section

variable (hd : d ≠ '"' ∧ d ≠ '\\')

include hd

/-- A body and its closing quote start with a name and a quote only if the body is the name. -/
theorem not_prefix_of_isBody {body : Text} (hbody : IsBody body) (hne : body ≠ fieldName d)
    (rest : Text) :
  ¬ fieldName d ++ ['"'] <+: body ++ '"' :: rest
  := by
  intro h
  simp only [fieldName, List.cons_append, List.nil_append] at h hne
  -- two plain characters are read, and then a quote, which ends the body
  cases hbody with
  | nil | escape | unicode => simp at h
  | plain _ _ _ hbody =>
    obtain ⟨rfl, htail⟩ := List.cons_prefix_cons.1 h
    cases hbody with
    | nil => exact hd.1 (List.cons_prefix_cons.1 htail).1
    | escape | unicode => exact hd.2 (List.cons_prefix_cons.1 htail).1
    | plain _ _ _ hbody =>
      obtain ⟨rfl, hlast⟩ := List.cons_prefix_cons.1 htail
      cases hbody with
      | nil => exact hne rfl
      | plain quote => exact quote (List.cons_prefix_cons.1 hlast).1.symm
      | escape | unicode => simp at hlast

theorem behind?_body {body : Text} (hbody : IsBody body) (hend : ¬ '"' :: fieldName d <:+ body)
    (rest : Text) :
  Text.behind? (quoted (fieldName d)) (body ++ '"' :: rest) =
    Text.behind? (quoted (fieldName d)) ('"' :: rest)
  := by
  induction hbody with
  | nil => rfl
  | @plain c t quote _ _ _ ih =>
    have hc : '"' ∉ [c] := by simpa using quote.symm
    rw [← ih fun h => hend (h.trans (List.suffix_cons c t))]
    exact behind?_append hc (t ++ '"' :: rest)
  | @escape c t hc hbody ih =>
    have hslash : '"' ∉ ['\\'] := by decide
    have hsuffix : t <:+ '\\' :: c :: t := (List.suffix_cons c t).trans (List.suffix_cons _ _)
    rw [← ih fun h => hend (h.trans hsuffix)]
    apply (behind?_append hslash (c :: t ++ '"' :: rest)).trans
    by_cases hquote : c = '"'
    · subst hquote
      apply behind?_quote
      apply not_prefix_of_isBody hd hbody
      rintro rfl
      apply hend
      apply List.suffix_cons
    · have hc : '"' ∉ [c] := by simpa using Ne.symm hquote
      exact behind?_append hc (t ++ '"' :: rest)
  | @unicode ds t _ hds _ ih =>
    have hquote : '"' ∉ '\\' :: 'u' :: ds := by
      simp only [List.mem_cons, not_or]
      refine ⟨by decide, by decide, ?_⟩
      intro hmem
      cases hds _ hmem
    have hsuffix : t <:+ '\\' :: 'u' :: ds ++ t := List.suffix_append _ _
    rw [← ih fun h => hend (h.trans hsuffix), List.append_assoc, behind?_append hquote]

/-- A string is passed over unless it imitates a name. -/
theorem passed_quoted {body : Text} (hbody : IsBody body) (h : ¬ Imitates (fieldName d) body) :
  Passed d (quoted body)
  := by
  constructor
  · simp [quoted]
  · intro rest hrest
    have hne : body ≠ fieldName d := by
      rintro rfl
      apply h (List.suffix_refl _)
    have hclose : ¬ fieldName d ++ ['"'] <+: rest := by
      rintro ⟨more, rfl⟩
      apply hrest rfl
    have hsplit : quoted body ++ rest = '"' :: (body ++ '"' :: rest) := by simp [quoted]
    rw [hsplit, behind?_quote (not_prefix_of_isBody hd hbody hne rest),
      behind?_body hd hbody (fun hend => h (hend.trans (List.suffix_cons _ _))),
      behind?_quote hclose]

/-- A value is passed over unless a string in it imitates a name. -/
theorem passed_of_isValue {t : Text} (h : IsValue (fun body => ¬ Imitates (fieldName d) body) t) :
  Passed d t
  := by
  induction h with
  | literal ht =>
    have hplain : ∀ t ∈ ["true".toList, "false".toList, "null".toList], IsPlain t := by decide
    apply passed_of_isPlain (hplain _ ht)
  | number ht => apply passed_of_isPlain (isPlain_of_isNumber ht)
  | string hbody kind => apply passed_quoted hd hbody kind
  | emptyArray hgap | emptyObject hgap =>
    have hpassed : Passed d _ := passed_of_isPlain (isPlain_of_isGap hgap)
    apply hpassed.between (by decide) (by decide)
  | array _ gaps _ ih =>
    apply Passed.between _ (by decide) (by decide)
    apply passed_join
    simp only [List.forall_mem_map]
    intro i hi
    apply passed_item (gaps i hi) (ih i hi)
  | object _ gaps names _ ih =>
    apply Passed.between _ (by decide) (by decide)
    apply passed_join
    simp only [List.forall_mem_map]
    intro m hm
    have hname : Passed d (quoted m.name) := passed_quoted hd (names m hm).1 (names m hm).2
    apply passed_member (gaps m hm) hname (ih m hm)

end

/-! ### The number of a field -/

theorem isSpace_of_mem {gap : Text} (h : IsGap gap) {c : Char} (hc : c ∈ gap) (hne : c ≠ '\r') :
  isSpace c = true
  := by
  have hgap : ∀ c ∈ [' ', '\t', '\n', '\r'], c ≠ '\r' → isSpace c = true := by simp [isSpace]
  apply hgap c (h c hc) hne

theorem isSpace_of_isDigit {c : Char} (h : Text.isDigit c = true) :
  isSpace c = false
  := by
  apply Bool.eq_false_iff.2
  intro hspace
  simp only [isSpace, Bool.or_eq_true, beq_iff_eq] at hspace
  rcases hspace with (rfl | rfl) | rfl
  · cases h
  · cases h
  · cases h

theorem dropWhile_isSpace {gap : Text} (h : IsGap gap) (hreturn : '\r' ∉ gap) {rest : Text}
    (hrest : ∀ c, rest.head? = some c → isSpace c = false) :
  (gap ++ rest).dropWhile isSpace = rest
  := by
  have hspace : ∀ c ∈ gap, isSpace c = true := by
    intro c hc
    apply isSpace_of_mem h hc
    rintro rfl
    apply hreturn hc
  rw [List.dropWhile_append_of_pos hspace]
  cases rest with
  | nil => rfl
  | cons c rest => rw [List.dropWhile_cons_of_neg (by simp [hrest c rfl])]

/-- White space is skipped up to the first carriage return in it. -/
theorem dropWhile_isSpace_return {gap : Text} (h : IsGap gap) (hreturn : '\r' ∈ gap)
    (rest : Text) :
  ∃ more, (gap ++ rest).dropWhile isSpace = '\r' :: more
  := by
  induction gap with
  | nil => cases hreturn
  | cons c gap ih =>
    by_cases hc : c = '\r'
    · subst hc
      exact ⟨_, rfl⟩
    · have hspace : isSpace c = true := isSpace_of_mem h List.mem_cons_self hc
      have hgap : IsGap gap := (List.forall_mem_cons.1 h).2
      rw [List.cons_append, List.dropWhile_cons_of_pos hspace]
      apply ih hgap ((List.mem_cons.1 hreturn).resolve_left (Ne.symm hc))

theorem behind?_quoted (name rest : Text) :
  Text.behind? (quoted name) (quoted name ++ rest) = some rest
  := by
  have hafter : Text.after? (quoted name) ('"' :: (name ++ ['"'] ++ rest)) = some rest :=
    Text.after?_append (quoted name) rest
  change Text.behind? (quoted name) ('"' :: (name ++ ['"'] ++ rest)) = some rest
  rw [Text.behind?, hafter]

/-- A number is found behind the name of its field, if no carriage return stands beside the
colon. -/
theorem field?_append {front gap gap' rest : Text} {n : Nat} (hfront : Passed d front)
    (hgap : IsGap gap) (hgap' : IsGap gap') (hn : n < 0x8000000000000000)
    (hrest : ∀ c, rest.head? = some c → Text.isDigit c = false) :
  field? (fieldName d)
      (front ++ (quoted (fieldName d) ++ (gap ++ ':' :: (gap' ++ (Decimal.digits n ++ rest))))) =
    if '\r' ∈ gap ∨ '\r' ∈ gap' then none else some (n : Int)
  := by
  have hdigits := Decimal.isDigits_digits n
  have hcolon : ∀ t c, (':' :: t).head? = some c → isSpace c = false := by
    rintro t c ⟨⟩
    rfl
  have hfound (t : Text) :
      Text.behind? ('"' :: fieldName d ++ ['"']) (front ++ (quoted (fieldName d) ++ t)) = some t :=
    (hfront.behind?_eq _ (by simp [quoted])).trans (behind?_quoted _ t)
  rw [field?, hfound, Option.bind_eq_bind, Option.bind_some]
  by_cases hreturn : '\r' ∈ gap
  · obtain ⟨more, hmore⟩ := dropWhile_isSpace_return hgap hreturn
      (':' :: (gap' ++ (Decimal.digits n ++ rest)))
    rw [hmore, if_pos (.inl hreturn)]
    rfl
  · rw [dropWhile_isSpace hgap hreturn (hcolon _)]
    simp only
    by_cases hreturn' : '\r' ∈ gap'
    · obtain ⟨more, hmore⟩ := dropWhile_isSpace_return hgap' hreturn' (Decimal.digits n ++ rest)
      have hreturns : '\r' ∈ gap ∨ '\r' ∈ gap' := .inr hreturn'
      rw [hmore, if_pos hreturns]
      rfl
    · have hhead : ∀ c, (Decimal.digits n ++ rest).head? = some c → isSpace c = false := by
        obtain ⟨d, ds, hcons⟩ := List.exists_cons_of_ne_nil (Decimal.digits_ne_nil n)
        rw [hcons]
        rintro c ⟨⟩
        apply isSpace_of_isDigit (hdigits d (by simp [hcons]))
      rw [dropWhile_isSpace hgap' hreturn' hhead, Numeral.takeWhile_isDigit hdigits hrest,
        Numeral.integer?_digits hn, if_neg (by simp [Decimal.digits_ne_nil]),
        if_neg (not_or.2 ⟨hreturn, hreturn'⟩)]

/-! ### Fields of an object -/

/-- Whether a member of an object is a field with some number, for whose name no string in front of
it could be taken. -/
structure IsCounter (members : List Member) (name : Text) (m : Member) (n : Nat) : Prop where
  name_eq : m.name = name
  value_eq : m.value = Decimal.digits n
  /-- The number is a 64-bit one. -/
  lt : n < 0x8000000000000000
  exists_split : ∃ front back, members = front ++ m :: back
    ∧ ∀ m' ∈ front, m'.IsOf fun body => ¬ Imitates name body

theorem not_isDigit_behind {gap : Text} (h : IsGap gap) (back : List Member) (b : Text) {c : Char}
    (hc : (gap ++ (back.flatMap (fun m' => [','] ++ m'.text) ++ '\x7d' :: b)).head? = some c) :
  Text.isDigit c = false
  := by
  have hgap : ∀ c ∈ [' ', '\t', '\n', '\r'], Text.isDigit c = false := by simp [Text.isDigit]
  cases gap with
  | nil =>
    cases back with
    | nil =>
      cases hc
      rfl
    | cons m back =>
      cases hc
      rfl
  | cons c gap =>
    cases hc
    apply hgap c (h c List.mem_cons_self)

theorem field?_of_isCounter (hd : d ≠ '"' ∧ d ≠ '\\') {members : List Member} {t : Text}
    {m : Member} {n : Nat} (hobject : IsObject members t)
    (h : IsCounter members (fieldName d) m n) :
  field? (fieldName d) t = if '\r' ∈ m.besideColon then none else some (n : Int)
  := by
  obtain ⟨hmembers, a, b, ha, hb, rfl⟩ := hobject
  obtain ⟨front, back, rfl, hfront⟩ := h.exists_split
  obtain ⟨hstart, hmiddle, hgaps⟩ := (hmembers m (by simp)).gaps
  have hpassed : Passed d
      (a ++ '\x7b' :: front.flatMap (fun m' => m'.text ++ [',']) ++ m.start) := by
    have hopen : Passed d (a ++ ['\x7b']) :=
      passed_of_isPlain (isPlain_append.2 ⟨isPlain_of_isGap ha, by decide⟩)
    have hcomma : Passed d [','] := passed_of_isPlain (by decide)
    have hall : Passed d (front.flatMap fun m' => m'.text ++ [',']) := by
      apply passed_flatMap
      intro m' hm'
      obtain ⟨gaps, name, value⟩ := hfront m' hm'
      have hname : Passed d (quoted m'.name) := passed_quoted hd name.1 name.2
      apply (passed_member gaps hname (passed_of_isValue hd value)).append hcomma
    rw [List.append_cons]
    apply (hopen.append hall).append (passed_of_isPlain (isPlain_of_isGap hstart))
  have hsplit : a ++ objectOf (front ++ m :: back) ++ b =
      (a ++ '\x7b' :: front.flatMap (fun m' => m'.text ++ [',']) ++ m.start)
        ++ (quoted (fieldName d) ++ (m.middle ++ ':' :: (m.front ++ (Decimal.digits n
          ++ (m.back ++ (back.flatMap (fun m' => [','] ++ m'.text) ++ '\x7d' :: b)))))) := by
    rw [objectOf_append_cons, Member.text, Item.text, h.name_eq, h.value_eq]
    simp
  rw [hsplit, field?_append hpassed hmiddle hgaps.1 h.lt fun c => not_isDigit_behind hgaps.2 back b]
  simp [Member.besideColon]

/-- The member with some name and a number behind its colon. -/
def counter (start name middle front : Text) (n : Nat) : Member where
  start
  name
  middle
  front
  value := Decimal.digits n
  back := []

theorem counter_isOf {P : Text → Prop} {start name middle front : Text} (n : Nat)
    (gaps : IsGap start ∧ IsGap middle ∧ IsGap front)
    (verbatim : IsVerbatim name) (kind : P name) :
  (counter start name middle front n).IsOf P
  := by
  obtain ⟨hstart, hmiddle, hfront⟩ := gaps
  constructor
  · exact ⟨hstart, hmiddle, hfront, nofun⟩
  · exact ⟨isBody_of_isVerbatim verbatim, kind⟩
  · exact .number (isNumber_digits n)

/-- The statistics that an object shows are those of its own fields, unless a string in front of a
field could be taken for its name or a carriage return stands beside its colon; what passes for pure
then shows no request over the other transport. -/
theorem ofText?_object {members : List Member} {t : Text} {m₁ m₂ : Member} {n₁ n₂ : Nat}
    (hobject : IsObject members t) (h₁ : IsCounter members "h1".toList m₁ n₁)
    (h₂ : IsCounter members "h2".toList m₂ n₂) :
  ofText? t = (if '\r' ∈ m₁.besideColon ∨ '\r' ∈ m₂.besideColon then none
      else some { h1 := n₁, h2 := n₂ })
    ∧ ∀ s, ofText? t = some s → s.isPure = true → n₁ = 0
  := by
  have hread : ofText? t = if '\r' ∈ m₁.besideColon ∨ '\r' ∈ m₂.besideColon then none
      else some { h1 := n₁, h2 := n₂ } := by
    have hfield₁ : field? "h1".toList t = _ := field?_of_isCounter (d := '1') (by decide) hobject h₁
    have hfield₂ : field? "h2".toList t = _ := field?_of_isCounter (d := '2') (by decide) hobject h₂
    rw [ofText?, hfield₁, hfield₂]
    by_cases hreturn₁ : '\r' ∈ m₁.besideColon
    · simp [hreturn₁]
    · by_cases hreturn₂ : '\r' ∈ m₂.besideColon
      · simp [hreturn₁, hreturn₂]
      · simp [hreturn₁, hreturn₂]
  use hread
  intro s hs hpure
  rw [hread, Option.ite_none_left_eq_some] at hs
  obtain ⟨-, hs⟩ := hs
  obtain rfl := Option.some.inj hs
  simp only [isPure, Bool.and_eq_true, beq_iff_eq] at hpure
  apply Int.natCast_eq_zero.1 hpure.2

/-- A member whose value names both fields. -/
def kindMember : Member where
  start := []
  name := "kind".toList
  middle := []
  front := [' ']
  value := quoted "h1 or h2".toList
  back := []

theorem kindMember_isOf {P : Text → Prop} (name : P "kind".toList) (value : P "h1 or h2".toList) :
  kindMember.IsOf P
  := by
  constructor
  · decide
  · exact ⟨isBody_of_isVerbatim (by decide), name⟩
  · exact .string (isBody_of_isVerbatim (by decide)) value

/-- The names of the fields may occur in other strings, and white space stand anywhere, carriage
returns but beside the colons. -/
theorem ofText?_object_plain :
  ofText? "\x7b\"kind\": \"h1 or h2\",\r\n \"h2\" : 12,\r\n \"h1\":0\x7d".toList =
    some { h1 := 0, h2 := 12 }
  := by
  let second := counter "\r\n ".toList "h2".toList [' '] [' '] 12
  let first := counter "\r\n ".toList "h1".toList [] [] 0
  have hsecond {P : Text → Prop} (hname : P "h2".toList) : second.IsOf P :=
    counter_isOf 12 (by decide) (by decide) hname
  have hfirst : first.IsOf fun _ => True := counter_isOf 0 (by decide) (by decide) trivial
  have hobject : IsObject [kindMember, second, first]
      "\x7b\"kind\": \"h1 or h2\",\r\n \"h2\" : 12,\r\n \"h1\":0\x7d".toList := by
    refine ⟨?_, [], [], nofun, nofun, by decide +kernel⟩
    simp only [List.forall_mem_cons]
    exact ⟨kindMember_isOf trivial trivial, hsecond trivial, hfirst, nofun⟩
  have hfield₂ : IsCounter [kindMember, second, first] "h2".toList second 12 := by
    refine ⟨rfl, rfl, by decide, [kindMember], [first], rfl, ?_⟩
    simp only [List.forall_mem_cons]
    exact ⟨kindMember_isOf (by decide) (by decide), nofun⟩
  have hfield₁ : IsCounter [kindMember, second, first] "h1".toList first 0 := by
    refine ⟨rfl, rfl, by decide, [kindMember, second], [], rfl, ?_⟩
    simp only [List.forall_mem_cons]
    exact ⟨kindMember_isOf (by decide) (by decide), hsecond (by decide), nofun⟩
  rw [(ofText?_object hobject hfield₁ hfield₂).1, if_neg (by decide)]
  rfl

/-- Routes with counts of their own, seven requests over HTTP/1.1 and three over HTTP/2. -/
def nestedMembers : List Member :=
  [{ start := [], name := "routes".toList, middle := [], front := [' ']
     value := objectOf [counter [] "h1".toList [] [' '] 0], back := [] },
    counter [' '] "h1".toList [] [' '] 7,
    counter [' '] "h2".toList [] [' '] 3]

theorem nestedMembers_isOf :
  ∀ m ∈ nestedMembers, m.IsOf fun _ => True
  := by
  have hinner : (counter [] "h1".toList [] [' '] 0).IsOf fun _ => True :=
    counter_isOf 0 (by decide) (by decide) trivial
  simp only [nestedMembers, List.forall_mem_cons]
  refine ⟨⟨by decide, ⟨isBody_of_isVerbatim (by decide), trivial⟩, ?_⟩, ?_, ?_, nofun⟩
  · apply isValue_objectOf (List.cons_ne_nil _ _) (List.forall_mem_singleton.2 hinner)
  · apply counter_isOf 7 (by decide) (by decide) trivial
  · apply counter_isOf 3 (by decide) (by decide) trivial

/-- The name of a field is found in an object in front of it, and the traffic passes for pure with
seven requests over the other transport. -/
theorem ofText?_nested :
  IsObject nestedMembers
      "\x7b\"routes\": \x7b\"h1\": 0\x7d, \"h1\": 7, \"h2\": 3\x7d".toList
    ∧ (nestedMembers.map Member.name).Nodup
    ∧ ("h1".toList, Decimal.digits 7) ∈ nestedMembers.map (fun m => (m.name, m.value))
    ∧ ("h2".toList, Decimal.digits 3) ∈ nestedMembers.map (fun m => (m.name, m.value))
    ∧ ofText? "\x7b\"routes\": \x7b\"h1\": 0\x7d, \"h1\": 7, \"h2\": 3\x7d".toList =
      some { h1 := 0, h2 := 3 }
    ∧ isPure { h1 := 0, h2 := 3 } = true
  := by
  refine ⟨⟨nestedMembers_isOf, [], [], nofun, nofun, by decide +kernel⟩, by decide, ?_, ?_,
    by decide +kernel, by decide⟩
  · simp [nestedMembers, counter]
  · simp [nestedMembers, counter]

end TransportCounts

end PerfGate
