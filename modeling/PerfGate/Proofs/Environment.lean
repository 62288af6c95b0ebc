import Mathlib.Data.List.TakeWhile
import PerfGate.Environment
import PerfGate.Proofs.Text.Parts

/-!
# Environments

Entries whose names hold no equals sign are told apart by their names, so a name that
`Environment.override` gives a value has that value, whatever the entries were.  All entries of
such a name go, however many there are, and every other one stays where it was
(`Environment.override_replaces`).
-/

namespace PerfGate

namespace Environment

/-! ### Values of variables -/

section

variable (env : Environment) (name : Text)

/-- Whether a variable is unset or empty; the text of a variable ends at the first NUL. -/
def IsBlank : Prop := env name = none ∨ env name = some [] ∨ ∃ rest, env name = some ('\x00' :: rest)

/-- Whether the text of a variable is a given one, and not the empty one. -/
def HasText (t : Text) : Prop :=
  t ≠ [] ∧ '\x00' ∉ t ∧ (env name = some t ∨ ∃ rest, env name = some (t ++ '\x00' :: rest))

variable {env name}

theorem value?_eq_some_iff {t : Text} :
  env.value? name = some t ↔ env.HasText name t
  := by
  unfold value? HasText
  cases env name with
  | none => simp
  | some raw =>
    simp only [Option.map_some, Option.filter_eq_some_iff, Option.some.injEq, Text.untilNul,
      Text.takeWhile_ne_eq_iff, Bool.not_eq_true', List.isEmpty_eq_false_iff]
    apply and_comm

theorem value?_eq_none_iff :
  env.value? name = none ↔ env.IsBlank name
  := by
  unfold value? IsBlank
  cases env name with
  | none => simp
  | some raw =>
    have hempty : Text.untilNul raw = [] ↔ raw = [] ∨ ∃ rest, raw = '\x00' :: rest := by
      rw [Text.untilNul, Text.takeWhile_ne_eq_iff]
      simp
    simp [Option.filter_eq_none_iff, hempty]

end

/-! ### Names of entries -/

theorem entryName_eq_self {name : Text} (hname : '=' ∉ name) :
  entryName name = name
  := Text.takeWhile_ne_eq_iff.2 ⟨hname, .inl rfl⟩

/-- The name of an entry ends at the first equals sign. -/
theorem entryName_append (t rest : Text) :
  entryName (t ++ '=' :: rest) = entryName t
  := by
  rw [entryName, List.takeWhile_append]
  split
  · rename_i hlength
    have hall : t.takeWhile (· != '=') = t :=
      (List.takeWhile_prefix (· != '=')).eq_of_length hlength
    rw [List.takeWhile_cons_of_neg (by simp), List.append_nil, entryName, hall]
  · rfl

theorem entryName_entry {name : Text} (hname : '=' ∉ name) (value : Text) :
  entryName (entry name value) = name
  := by
  rw [entry, entryName_append, entryName_eq_self hname]

/-- An entry that decides a lookup has the name that is looked up. -/
theorem entryName_of_after? {t e value : Text} (h : Text.after? (t ++ ['=']) e = some value) :
  entryName e = entryName t
  := by
  rw [Text.eq_append_of_after? h, List.append_assoc, List.singleton_append, entryName_append]

/-- Whether an entry is one of a name, with a value or without one. -/
def IsOf (name e : Text) : Prop := e = name ∨ ∃ value, e = entry name value

theorem entryName_eq_iff {name : Text} (hname : '=' ∉ name) {e : Text} :
  entryName e = name ↔ IsOf name e
  := by
  rw [entryName, Text.takeWhile_ne_eq_iff, and_iff_right hname]
  rfl

/-! ### Names with other values -/

theorem after?_entry {name : Text} (hname : '=' ∉ name) (other value : Text)
    (hother : '=' ∉ other) :
  Text.after? (name ++ ['=']) (entry other value) = if name == other then some value else none
  := by
  split
  · rename_i heq
    have hsplit : entry other value = name ++ ['='] ++ value := by
      rw [← eq_of_beq heq, entry, List.append_assoc, List.singleton_append]
    rw [hsplit, Text.after?_append]
  · rename_i hne
    rw [Option.eq_none_iff_forall_ne_some]
    intro rest h
    apply hne
    rw [beq_iff_eq, ← entryName_eq_self hname, ← entryName_of_after? h, entryName_entry hother]

/-- A name that is given another value has it. -/
theorem ofEntries_override {entries : List Text} {overrides : List (Text × Text)}
    (hnames : ∀ o ∈ overrides, '=' ∉ o.1) {name value : Text} (hname : '=' ∉ name)
    (h : overrides.lookup name = some value) :
  ofEntries (override entries overrides) name = some value
  := by
  have hother : ∀ e ∈ entries.filter (fun e => !overrides.any (·.1 == entryName e)),
      Text.after? (name ++ ['=']) e = none := by
    intro e he
    rw [Option.eq_none_iff_forall_ne_some]
    intro rest hrest
    have hany := (List.mem_filter.1 he).2
    rw [entryName_of_after? hrest, entryName_eq_self hname, Bool.not_eq_true',
      List.any_eq_false] at hany
    obtain ⟨front, back, rfl, -⟩ := List.lookup_eq_some_iff.1 h
    apply hany (name, value) (by simp)
    apply beq_self_eq_true
  rw [ofEntries, override, List.findSome?_append, List.findSome?_eq_none_iff.2 hother,
    Option.none_or]
  clear hother
  induction overrides with
  | nil => cases h
  | cons o overrides ih =>
    obtain ⟨hhead, htail⟩ := List.forall_mem_cons.1 hnames
    rw [List.map_cons, List.findSome?_cons, after?_entry hname _ _ hhead]
    rw [List.lookup_cons] at h
    split at h
    · rename_i heq
      rw [if_pos heq]
      apply h
    · rename_i hne
      rw [if_neg (by simp [hne])]
      apply ih htail h

/-! ### Other entries -/

variable {entries : List Text} {overrides : List (Text × Text)}

theorem any_entryName_iff (hnames : ∀ o ∈ overrides, '=' ∉ o.1) (e : Text) :
  overrides.any (·.1 == entryName e) = true ↔ ∃ o ∈ overrides, IsOf o.1 e
  := by
  rw [List.any_eq_true]
  constructor
  · rintro ⟨o, ho, heq⟩
    use o, ho
    apply (entryName_eq_iff (hnames o ho)).1
    symm
    apply eq_of_beq heq
  · rintro ⟨o, ho, he⟩
    use o, ho
    rw [beq_iff_eq, (entryName_eq_iff (hnames o ho)).2 he]

/-- Entries of other names can go without any effect on a lookup. -/
theorem ofEntries_filter {p : Text → Bool} {t : Text}
    (hp : ∀ e, entryName e = entryName t → p e = true) :
  ofEntries (entries.filter p) t = ofEntries entries t
  := by
  induction entries with
  | nil => rfl
  | cons e entries ih =>
    cases hkept : p e with
    | true =>
      rw [List.filter_cons_of_pos hkept, ofEntries, List.findSome?_cons, ofEntries,
        List.findSome?_cons]
      cases Text.after? (t ++ ['=']) e with
      | some value => rfl
      | none => apply ih
    | false =>
      have hnone : Text.after? (t ++ ['=']) e = none := by
        rw [Option.eq_none_iff_forall_ne_some]
        intro value hvalue
        rw [hp e (entryName_of_after? hvalue)] at hkept
        cases hkept
      rw [List.filter_cons_of_neg (by rw [hkept]; decide), ih, ofEntries, ofEntries,
        List.findSome?_cons, hnone]

/-- What is not given a value is looked up in the entries as they were. -/
theorem ofEntries_override_of_not_isOf (hnames : ∀ o ∈ overrides, '=' ∉ o.1) {t : Text}
    (ht : ∀ o ∈ overrides, ¬IsOf o.1 t) :
  ofEntries (override entries overrides) t = ofEntries entries t
  := by
  have hname : ∀ o ∈ overrides, o.1 ≠ entryName t := by
    intro o ho heq
    apply ht o ho
    rw [← entryName_eq_iff (hnames o ho), heq]
  have hnew : (overrides.map fun o => entry o.1 o.2).findSome? (Text.after? (t ++ ['='])) =
      none := by
    rw [List.findSome?_eq_none_iff]
    intro e he
    obtain ⟨o, ho, rfl⟩ := List.mem_map.1 he
    rw [Option.eq_none_iff_forall_ne_some]
    intro value hvalue
    apply hname o ho
    rw [← entryName_of_after? hvalue, entryName_entry (hnames o ho)]
  have hkept : ∀ e, entryName e = entryName t →
      (!overrides.any (·.1 == entryName e)) = true := by
    intro e he
    rw [Bool.not_eq_true', List.any_eq_false, he]
    intro o ho heq
    apply hname o ho (eq_of_beq heq)
  rw [ofEntries, override, List.findSome?_append, hnew, Option.or_none]
  apply ofEntries_filter hkept

/-! ### Replacement -/

/-- Among distinct names, each has the value that it is given. -/
theorem lookup_eq_some_of_mem (hdistinct : (overrides.map Prod.fst).Nodup) {o : Text × Text}
    (ho : o ∈ overrides) :
  overrides.lookup o.1 = some o.2
  := by
  obtain ⟨front, back, rfl⟩ := List.append_of_mem ho
  rw [List.map_append, List.map_cons, List.nodup_append] at hdistinct
  rw [List.lookup_eq_some_iff]
  use front, back, rfl
  intro p hp
  rw [bne_iff_ne]
  apply (hdistinct.2.2 _ (List.mem_map_of_mem hp) _ List.mem_cons_self).symm

/-- Names that are given values have these values, and no other entry of them is left; all other
lookups tell what they told before, and all other entries are kept in their order.  A name holds no
equals sign: a lookup of a text with one looks into the value of the name in front of it. -/
theorem override_replaces (hnames : ∀ o ∈ overrides, '=' ∉ o.1)
    (hdistinct : (overrides.map Prod.fst).Nodup) :
  (∀ o ∈ overrides, ofEntries (override entries overrides) o.1 = some o.2)
    ∧ (∀ name, (∀ o ∈ overrides, ¬IsOf o.1 name) →
      ofEntries (override entries overrides) name = ofEntries entries name)
    ∧ ∃ kept, override entries overrides = kept ++ overrides.map (fun o => entry o.1 o.2)
      ∧ List.Sublist kept entries
      ∧ (∀ o ∈ overrides, ∀ e ∈ kept, ¬IsOf o.1 e)
      ∧ ∀ e, (∀ o ∈ overrides, ¬IsOf o.1 e) → kept.count e = entries.count e
  := by
  refine ⟨?_, ?_, entries.filter fun e => !overrides.any (·.1 == entryName e), rfl,
    List.filter_sublist, ?_, ?_⟩
  · intro o ho
    apply ofEntries_override hnames (hnames o ho) (lookup_eq_some_of_mem hdistinct ho)
  · intro name hname
    apply ofEntries_override_of_not_isOf hnames hname
  · intro o ho e he hof
    have hany := (any_entryName_iff hnames e).2 ⟨o, ho, hof⟩
    rw [List.mem_filter, hany] at he
    cases he.2
  · intro e he
    apply List.count_filter
    rw [Bool.not_eq_true', Bool.eq_false_iff, ne_eq, any_entryName_iff hnames]
    rintro ⟨o, ho, hof⟩
    apply he o ho hof

/-- Entries with a name three times, names without a value, a value with an equals sign and a name
that starts another one. -/
def jumbled : List Text :=
  ["A=1", "AB=2", "A", "JUNK", "B=x=y", "A=3", "C", "B="].map String.toList

/-- A value for a name that stands there and one for a new name. -/
def renewed : List (Text × Text) := [("A".toList, "7".toList), ("D".toList, [])]

/-- All three entries of a name make way for one, and a lookup of another name goes on to find the
first of its entries. -/
theorem override_replaces_jumbled :
  override jumbled renewed =
      ["AB=2", "JUNK", "B=x=y", "C", "B=", "A=7", "D="].map String.toList
    ∧ ofEntries (override jumbled renewed) "A".toList = some "7".toList
    ∧ ofEntries (override jumbled renewed) "B".toList = some "x=y".toList
  := by
  have hnames : ∀ o ∈ renewed, '=' ∉ o.1 := by decide
  obtain ⟨hvalue, hsame, -⟩ := @override_replaces jumbled renewed hnames (by decide)
  refine ⟨by decide +kernel, hvalue ("A".toList, "7".toList) (by decide), ?_⟩
  rw [hsame "B".toList]
  · decide +kernel
  · have hother : ∀ o ∈ renewed, entryName "B".toList ≠ o.1 := by decide
    intro o ho hof
    apply hother o ho
    apply (entryName_eq_iff (hnames o ho)).2 hof

end Environment

end PerfGate
