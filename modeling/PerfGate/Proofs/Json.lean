import Mathlib.Tactic.Use
import PerfGate.Binary64.Reading
import PerfGate.Proofs.Text.Decimal
import PerfGate.Proofs.Text.Parts

/-!
# JSON texts

The grammar of JSON, over texts as they are written: with the white space between the parts, and with
the escapes in strings and the form of numbers as they stand.  A value may be limited to strings of
some kind, those of all the values and names in it (`IsValue`).
-/

namespace PerfGate

namespace Json

/-! ### White space, strings and numbers -/

/-- Whether a text is white space, or empty. -/
def IsGap (t : Text) : Prop := ∀ c ∈ t, c ∈ [' ', '\t', '\n', '\r']

instance : DecidablePred IsGap := fun t => List.decidableBAll _ t

/-- Whether a text can stand between the quotes of a string. -/
inductive IsBody : Text → Prop
  | nil : IsBody []
  | plain {c : Char} {t : Text} (quote : c ≠ '"') (backslash : c ≠ '\\') (control : ' ' ≤ c)
      (rest : IsBody t) : IsBody (c :: t)
  | escape {c : Char} {t : Text} (hc : c ∈ ['"', '\\', '/', 'b', 'f', 'n', 'r', 't'])
      (rest : IsBody t) : IsBody ('\\' :: c :: t)
  | unicode {ds t : Text} (length : ds.length = 4) (hds : ∀ c ∈ ds, Binary64.isHexDigit c = true)
      (rest : IsBody t) : IsBody ('\\' :: 'u' :: ds ++ t)

/-- Whether a text stands between the quotes of a string as it is. -/
def IsVerbatim (t : Text) : Prop := ∀ c ∈ t, c ≠ '"' ∧ c ≠ '\\' ∧ ' ' ≤ c

instance : DecidablePred IsVerbatim := fun t => List.decidableBAll _ t

theorem isBody_of_isVerbatim {t : Text} (h : IsVerbatim t) :
  IsBody t
  := by
  induction t with
  | nil => apply IsBody.nil
  | cons c t ih =>
    obtain ⟨⟨hquote, hbackslash, hcontrol⟩, ht⟩ := List.forall_mem_cons.1 h
    apply IsBody.plain hquote hbackslash hcontrol (ih ht)

/-- The string with some body. -/
def quoted (body : Text) : Text := '"' :: body ++ ['"']

/-- Whether a text is the part of a number behind its whole part, or empty. -/
def IsFraction (t : Text) : Prop := t = [] ∨ ∃ ds : Text, ds ≠ [] ∧ ds.IsDigits ∧ t = '.' :: ds

/-- Whether a text is the exponent of a number, or empty. -/
def IsExponent (t : Text) : Prop :=
  t = [] ∨ ∃ (mark : Char) (sign ds : Text), mark ∈ ['e', 'E'] ∧ sign ∈ [[], ['+'], ['-']]
    ∧ ds ≠ [] ∧ ds.IsDigits ∧ t = mark :: sign ++ ds

/-- Whether a text is a number; its whole part has no leading zeros. -/
def IsNumber (t : Text) : Prop :=
  ∃ (sign fraction exponent : Text) (n : Nat), sign ∈ [[], ['-']] ∧ IsFraction fraction
    ∧ IsExponent exponent ∧ t = sign ++ Decimal.digits n ++ fraction ++ exponent

theorem isNumber_digits (n : Nat) :
  IsNumber (Decimal.digits n)
  := ⟨[], [], [], n, by decide, .inl rfl, .inl rfl, by simp⟩

/-! ### Values -/

/-- A value with the white space around it. -/
structure Item where
  front : Text
  value : Text
  back : Text

/-- A member of an object: its name, and its value behind a colon. -/
structure Member extends Item where
  /-- The white space in front of the name. -/
  start : Text
  /-- The name, without its quotes. -/
  name : Text
  /-- The white space behind the name. -/
  middle : Text

/-- The text of a value. -/
def Item.text (i : Item) : Text := i.front ++ i.value ++ i.back

/-- Whether there is nothing but white space around a value. -/
def Item.HasGaps (i : Item) : Prop := IsGap i.front ∧ IsGap i.back

instance (i : Item) : Decidable i.HasGaps := inferInstanceAs (Decidable (_ ∧ _))

/-- The text of a member. -/
def Member.text (m : Member) : Text :=
  m.start ++ quoted m.name ++ m.middle ++ ':' :: m.toItem.text

/-- Whether there is nothing but white space between the parts of a member. -/
def Member.HasGaps (m : Member) : Prop := IsGap m.start ∧ IsGap m.middle ∧ m.toItem.HasGaps

instance (m : Member) : Decidable m.HasGaps := inferInstanceAs (Decidable (_ ∧ _))

/-- The white space beside the colon of a member. -/
def Member.besideColon (m : Member) : Text := m.middle ++ m.front

/-- The text of an array of some items. -/
def arrayOf (items : List Item) : Text := '[' :: Text.join [','] (items.map Item.text) ++ [']']

/-- The text of an object with some members. -/
def objectOf (members : List Member) : Text :=
  '\x7b' :: Text.join [','] (members.map Member.text) ++ ['\x7d']

/-- An object up to one of its members, that member and what is behind it. -/
theorem objectOf_append_cons (front : List Member) (m : Member) (back : List Member) :
  objectOf (front ++ m :: back) =
    '\x7b' :: front.flatMap (fun m' => m'.text ++ [',']) ++ m.text
      ++ (back.flatMap (fun m' => [','] ++ m'.text) ++ ['\x7d'])
  := by
  rw [objectOf, List.map_append, List.map_cons, Text.join_append_cons, List.flatMap_map,
    List.flatMap_map]
  simp

/-- Whether a text is a value, the strings in which are all of some kind. -/
inductive IsValue (P : Text → Prop) : Text → Prop
  | literal {t : Text} (ht : t ∈ ["true".toList, "false".toList, "null".toList]) : IsValue P t
  | number {t : Text} (ht : IsNumber t) : IsValue P t
  | string {body : Text} (hbody : IsBody body) (kind : P body) : IsValue P (quoted body)
  | emptyArray {gap : Text} (hgap : IsGap gap) : IsValue P ('[' :: gap ++ [']'])
  | array {items : List Item} (ne_nil : items ≠ []) (gaps : ∀ i ∈ items, i.HasGaps)
      (values : ∀ i ∈ items, IsValue P i.value) : IsValue P (arrayOf items)
  | emptyObject {gap : Text} (hgap : IsGap gap) : IsValue P ('\x7b' :: gap ++ ['\x7d'])
  | object {members : List Member} (ne_nil : members ≠ []) (gaps : ∀ m ∈ members, m.HasGaps)
      (names : ∀ m ∈ members, IsBody m.name ∧ P m.name)
      (values : ∀ m ∈ members, IsValue P m.value) : IsValue P (objectOf members)

/-- Whether a member is well formed, with strings of some kind. -/
structure Member.IsOf (P : Text → Prop) (m : Member) : Prop where
  gaps : m.HasGaps
  name : IsBody m.name ∧ P m.name
  value : IsValue P m.value

theorem isValue_objectOf {P : Text → Prop} {members : List Member} (ne_nil : members ≠ [])
    (h : ∀ m ∈ members, m.IsOf P) :
  IsValue P (objectOf members)
  := .object ne_nil (fun m hm => (h m hm).gaps) (fun m hm => (h m hm).name)
    fun m hm => (h m hm).value

/-- Whether a text is an object with some members, all of them well formed. -/
def IsObject (members : List Member) (t : Text) : Prop :=
  (∀ m ∈ members, m.IsOf fun _ => True)
    ∧ ∃ a b, IsGap a ∧ IsGap b ∧ t = a ++ objectOf members ++ b

end Json

end PerfGate
