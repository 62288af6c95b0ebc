import Mathlib.Tactic.Use
import PerfGate.Procfs
import PerfGate.Proofs.Numeral
import PerfGate.Proofs.Text.Fields

/-!
# Stat lines

A stat line shows the name of a process between parentheses, as it is: the name may hold spaces,
line feeds and parentheses, and so look like the end of itself with other fields behind it.  The
fields that do stand behind it hold no closing parenthesis, so the last one of a line is where the
name ends.  Both readers of a line find their columns from there, whatever the name is, and the
children of a process are the ones whose lines have its number (`Procfs.reads_statLine`).
-/

namespace PerfGate

namespace Procfs

/-! ### Lines -/

/-- Whether a text can stand behind the name in a stat line. -/
def IsField (t : Text) : Prop := t ≠ [] ∧ ∀ c ∈ t, Text.isBlank c = false ∧ c ≠ ')'

instance (t : Text) : Decidable (IsField t) :=
  have : Decidable (∀ c ∈ t, Text.isBlank c = false ∧ c ≠ ')') := List.decidableBAll _ t
  inferInstanceAs (Decidable (t ≠ [] ∧ ∀ c ∈ t, Text.isBlank c = false ∧ c ≠ ')'))

/-- A stat line: the number of a process, its name in parentheses, and fields, each of them behind
a space. -/
def statLine (pid : Pid) (comm : Text) (fields : List Text) : Text :=
  Decimal.signed pid ++ [' ', '('] ++ comm ++ ')' :: fields.flatMap (' ' :: ·)

theorem isField_signed (n : Int) :
  IsField (Decimal.signed n)
  := by
  constructor
  · unfold Decimal.signed
    split
    · apply List.cons_ne_nil
    · apply Decimal.digits_ne_nil
  · intro c hc
    use Numeral.isBlank_of_mem_signed hc
    rintro rfl
    unfold Decimal.signed at hc
    split at hc
    · rcases List.mem_cons.1 hc with h | h
      · cases h
      · cases Decimal.isDigits_digits _ _ h
    · cases Decimal.isDigits_digits _ _ hc

variable {pid : Pid} {comm : Text} {fields : List Text} {ending : Text}

/-- No name hides where the fields start. -/
theorem behindName?_statLine (hfields : ∀ f ∈ fields, IsField f)
    (hending : ∀ c ∈ ending, Text.isBlank c = true) :
  behindName? (statLine pid comm fields ++ ending) = some (fields.flatMap (' ' :: ·) ++ ending)
  := by
  have hclose : ')' ∉ fields.flatMap (' ' :: ·) ++ ending := by
    intro hmem
    rcases List.mem_append.1 hmem with hmem | hmem
    · obtain ⟨f, hf, hmem⟩ := List.mem_flatMap.1 hmem
      rcases List.mem_cons.1 hmem with h | hmem
      · cases h
      · apply ((hfields f hf).2 _ hmem).2 rfl
    · cases hending _ hmem
  rw [behindName?, statLine, List.append_assoc, List.cons_append, Text.behindLast?_append hclose]

/-! ### Parents -/

theorem parent?_statLine {state : Text} {parent : Pid} {more : List Text} (hstate : IsField state)
    (hmore : ∀ f ∈ more, IsField f) (hparent : inRange64 parent = true)
    (hending : ∀ c ∈ ending, Text.isBlank c = true) :
  parent? (statLine pid comm (state :: Decimal.signed parent :: more) ++ ending) = some parent
  := by
  have hfields : ∀ f ∈ state :: Decimal.signed parent :: more, IsField f :=
    List.forall_mem_cons.2 ⟨hstate, List.forall_mem_cons.2 ⟨isField_signed parent, hmore⟩⟩
  have hspace : ∀ {t : Text}, IsField t → ∀ c ∈ t, (c != ' ') = true := by
    intro t ht c hc
    rw [bne_iff_ne]
    rintro rfl
    cases (ht.2 _ hc).1
  -- what is taken of the text behind the number is blank
  have hrest : ∀ c ∈ (more.flatMap (' ' :: ·) ++ ending).takeWhile (· != ' '),
      Text.isBlank c = true := by
    intro c hc
    cases more with
    | nil => apply hending c ((List.takeWhile_prefix _).mem hc)
    | cons f more => cases hc
  have hsplit : Text.splitFirst? ' ' (state ++ ' ' :: (Decimal.signed parent ++
      (more.flatMap (' ' :: ·) ++ ending))) =
      some (state, Decimal.signed parent ++ (more.flatMap (' ' :: ·) ++ ending)) := by
    apply Text.splitFirst?_append
    intro hmem
    cases hspace hstate _ hmem
  have hflat : (state :: Decimal.signed parent :: more).flatMap (' ' :: ·) ++ ending =
      ' ' :: (state ++ ' ' :: (Decimal.signed parent ++ (more.flatMap (' ' :: ·) ++ ending))) := by
    simp
  rw [parent?, behindName?_statLine hfields hending, hflat]
  show (Text.splitFirst? ' ' (state ++ _)).bind _ = _
  rw [hsplit]
  show Numeral.integer? ((Decimal.signed parent ++ _).takeWhile (· != ' ')) = _
  rw [List.takeWhile_append_of_pos (hspace (isField_signed parent)),
    Numeral.integer?_append_of_blank hrest, Numeral.integer?_signed hparent]

/-! ### Clock ticks -/

theorem ticks?_digits {n : Nat} (hn : n < 0x8000000000000000) :
  ticks? (Decimal.digits n) = some n
  := by
  simp [ticks?, Numeral.integer?_digits hn]

/-- The clock ticks are looked for in the twelfth and the thirteenth field. -/
theorem cpuTicks?_statLine (hfields : ∀ f ∈ fields, IsField f)
    (hending : ∀ c ∈ ending, Text.isBlank c = true) :
  cpuTicks? (statLine pid comm fields ++ ending) =
    (fields[11]?.bind ticks?).bind fun user =>
      (fields[12]?.bind ticks?).map fun system => user + system
  := by
  have hwords : Text.words (fields.flatMap (' ' :: ·) ++ ending) = fields := by
    apply Text.words_flatMap_space _ hending
    intro f hf
    use (hfields f hf).1
    intro c hc
    apply ((hfields f hf).2 c hc).1
  rw [cpuTicks?, behindName?_statLine hfields hending]
  show (Text.words _)[11]?.bind _ = _
  rw [hwords, Option.bind_assoc]
  cases fields[11]? with
  | none => rfl
  | some user =>
    rw [Option.bind_some, Option.bind_some]
    cases ticks? user with
    | none => rfl
    | some user =>
      cases fields[12]? with
      | none => rfl
      | some system => cases h : ticks? system <;> simp [h]

/-! ### Tables of processes -/

/-- What the stat line of a process tells. -/
structure Stat where
  /-- Its number. -/
  pid : Pid
  /-- Its name, which can be any text. -/
  comm : Text
  /-- The field behind the name. -/
  state : Text
  /-- The number of its parent. -/
  parent : Pid
  /-- The fields behind that. -/
  more : List Text
  isField_state : IsField state
  isField_of_mem_more : ∀ f ∈ more, IsField f
  inRange32_pid : inRange32 pid = true
  inRange32_parent : inRange32 parent = true

/-- Whether an entry shows a process, with or without a line feed behind its stat line. -/
def Stat.IsIn (s : Stat) (e : Entry) : Prop :=
  e.name = Decimal.signed s.pid ∧ ∃ ending, (∀ c ∈ ending, Text.isBlank c = true)
    ∧ e.stat = statLine s.pid s.comm (s.state :: Decimal.signed s.parent :: s.more) ++ ending

/-- The entry that shows a process. -/
def Stat.entry (s : Stat) : Entry where
  name := Decimal.signed s.pid
  stat := statLine s.pid s.comm (s.state :: Decimal.signed s.parent :: s.more) ++ ['\n']
  comm := some (s.comm ++ ['\n'])

/-- Whether the entries of a directory show a table of processes, and nothing else that has a number
for a name. -/
structure Shows (es : List Entry) (table : List Stat) : Prop where
  nodup : (es.map (·.name)).Nodup
  of_mem : ∀ e ∈ es, Numeral.integer? e.name = none ∨ ∃ s ∈ table, s.IsIn e
  exists_mem : ∀ s ∈ table, ∃ e ∈ es, s.IsIn e

theorem inRange64_of_inRange32 {n : Int} (h : inRange32 n = true) :
  inRange64 n = true
  := by
  simp only [inRange32, inRange64, Bool.and_eq_true, decide_eq_true_eq] at h ⊢
  omega

theorem wrap32_eq_self {n : Int} (h : inRange32 n = true) :
  wrap32 n = n
  := by
  simp only [inRange32, Bool.and_eq_true, decide_eq_true_eq] at h
  rw [wrap32, Int.bmod_def]
  omega

variable {s : Stat} {e : Entry} {es : List Entry} {table : List Stat} {q : Pid}

theorem Stat.IsIn.integer?_name (h : s.IsIn e) :
  Numeral.integer? e.name = some s.pid
  := by
  rw [h.1, Numeral.integer?_signed (inRange64_of_inRange32 s.inRange32_pid)]

theorem Stat.IsIn.isChildOf (h : s.IsIn e) (q : Pid) :
  e.isChildOf q = true ↔ s.parent = q
  := by
  obtain ⟨-, ending, hending, hstat⟩ := h
  rw [Entry.isChildOf, hstat, parent?_statLine s.isField_state s.isField_of_mem_more
    (inRange64_of_inRange32 s.inRange32_parent) hending, beq_iff_eq, Option.some.injEq]

/-- The number that an entry adds to the children of a process. -/
def child? (q : Pid) (e : Entry) : Option Pid :=
  match Numeral.integer? e.name with
  | some n => if e.isChildOf q then some (wrap32 n) else none
  | none => none

theorem children_eq (es : List Entry) (q : Pid) :
  children es q = (es.filterMap (child? q)).mergeSort
  := rfl

theorem Stat.IsIn.child?_eq (h : s.IsIn e) (q : Pid) :
  child? q e = if s.parent = q then some s.pid else none
  := by
  unfold child?
  rw [h.integer?_name]
  dsimp only
  rw [wrap32_eq_self s.inRange32_pid]
  simp only [h.isChildOf]

/-- An entry adds the process that it shows to the children of its parent. -/
theorem child?_eq_some_iff (hshows : Shows es table) (he : e ∈ es) {p : Pid} :
  child? q e = some p ↔ ∃ s ∈ table, s.IsIn e ∧ s.pid = p ∧ s.parent = q
  := by
  constructor
  · intro h
    rcases hshows.of_mem e he with hnone | ⟨s, hs, hin⟩
    · rw [child?, hnone] at h
      cases h
    · rw [hin.child?_eq, Option.ite_none_right_eq_some, Option.some.injEq] at h
      use s, hs, hin, h.2, h.1
  · rintro ⟨s, hs, hin, rfl, rfl⟩
    rw [hin.child?_eq, if_pos rfl]

/-- Different entries add different processes. -/
theorem nodup_filterMap_child? (hshows : Shows es table) :
  (es.filterMap (child? q)).Nodup
  := by
  rw [List.Nodup, List.pairwise_filterMap]
  apply (List.pairwise_map.1 hshows.nodup).imp_of_mem
  rintro e e' he he' hname p hp p' hp' rfl
  obtain ⟨s, -, hin, hpid, -⟩ := (child?_eq_some_iff hshows he).1 hp
  obtain ⟨s', -, hin', hpid', -⟩ := (child?_eq_some_iff hshows he').1 hp'
  apply hname
  rw [hin.1, hin'.1, hpid, hpid']

theorem pairwise_children (hshows : Shows es table) (q : Pid) :
  (children es q).Pairwise (· < ·)
  := by
  have hsorted : (children es q).Pairwise fun a b => decide (a ≤ b) = true := by
    apply List.pairwise_mergeSort
    · intro a b c
      simp only [decide_eq_true_eq]
      apply Int.le_trans
    · intro a b
      simp only [Bool.or_eq_true, decide_eq_true_eq]
      apply Int.le_total
  have hnodup : (children es q).Nodup := by
    rw [children_eq, (List.mergeSort_perm _ _).nodup_iff]
    apply nodup_filterMap_child? hshows
  apply (hsorted.and hnodup).imp
  rintro a b ⟨hle, hne⟩
  apply Int.lt_iff_le_and_ne.2 ⟨of_decide_eq_true hle, hne⟩

theorem mem_children_iff (hshows : Shows es table) {p : Pid} :
  p ∈ children es q ↔ ∃ s ∈ table, s.pid = p ∧ s.parent = q
  := by
  rw [children_eq, List.mem_mergeSort, List.mem_filterMap]
  constructor
  · rintro ⟨e, he, hchild⟩
    obtain ⟨s, hs, -, hpid, hparent⟩ := (child?_eq_some_iff hshows he).1 hchild
    use s, hs, hpid, hparent
  · rintro ⟨s, hs, hpid, hparent⟩
    obtain ⟨e, he, hin⟩ := hshows.exists_mem s hs
    use e, he
    apply (child?_eq_some_iff hshows he).2
    use s, hs, hin, hpid, hparent

/-! ### What is read -/

/-- Whatever processes are called, the children of a process in a table are the ones that have it as
their parent, in the order of their numbers; and the clock ticks in a line are the sum of the two
times in it, which does not leave the unsigned 64-bit range, or there are none if the line is too
short. -/
theorem reads_statLine :
  (∀ {es : List Entry} {table : List Stat}, Shows es table → ∀ q : Pid,
      ((tree es).children q).Pairwise (· < ·)
        ∧ ∀ p, p ∈ (tree es).children q ↔ ∃ s ∈ table, s.pid = p ∧ s.parent = q)
    ∧ ∀ (pid : Pid) (comm : Text) {fields : List Text} {ending : Text},
      (∀ f ∈ fields, IsField f) → (∀ c ∈ ending, Text.isBlank c = true) →
      (∀ user system, user < 2 ^ 63 → system < 2 ^ 63 →
        fields[11]? = some (Decimal.digits user) → fields[12]? = some (Decimal.digits system) →
        cpuTicks? (statLine pid comm fields ++ ending) = some (user + system)
          ∧ user + system < 2 ^ 64)
      ∧ (fields.length < 13 → cpuTicks? (statLine pid comm fields ++ ending) = none)
  := by
  constructor
  · intro es table hshows q
    use pairwise_children hshows q
    intro p
    apply mem_children_iff hshows
  · intro pid comm fields ending hfields hending
    rw [cpuTicks?_statLine hfields hending]
    constructor
    · intro user system huser hsystem hfield hfield'
      rw [hfield, hfield', Option.bind_some, Option.bind_some, ticks?_digits huser,
        ticks?_digits hsystem]
      use rfl
      omega
    · intro hshort
      rw [List.getElem?_eq_none (by omega : fields.length ≤ 12)]
      cases fields[11]?.bind ticks? <;> rfl

/-- Two children of a process, with names that look like other stat lines. -/
def impostors : List Stat :=
  [{ pid := 52, comm := "odd) R 7 (x\n".toList, state := ['S'], parent := 50
     more := ["1".toList, "-1".toList]
     isField_state := by decide, isField_of_mem_more := by decide
     inRange32_pid := by decide, inRange32_parent := by decide },
   { pid := 51, comm := "9 (9) S 52 ".toList, state := ['Z'], parent := 50, more := []
     isField_state := by decide, isField_of_mem_more := by decide
     inRange32_pid := by decide, inRange32_parent := by decide }]

/-- A directory that shows them, beside an entry that is no process. -/
def impostorEntries : List Entry :=
  { name := "self".toList, stat := [], comm := none } :: impostors.map Stat.entry

/-- Fifteen columns behind a name, the twelfth and thirteenth with the ticks of a process. -/
def busyFields : List Text :=
  ["R", "1", "1", "1", "0", "-1", "4194304", "7", "0", "0", "0", "120", "30", "0", "0"].map
    String.toList

theorem reads_statLine_impostors :
  Shows impostorEntries impostors ∧ (∀ p, p ∈ (tree impostorEntries).children 50 ↔ p = 51 ∨ p = 52)
    ∧ cpuTicks? (statLine 9 "x) R 1 (y".toList busyFields ++ ['\n']) = some 150
    ∧ cpuTicks? (statLine 9 "x) R 1 (y".toList (busyFields.take 12) ++ ['\n']) = none
  := by
  have hfeed : ∀ c ∈ ['\n'], Text.isBlank c = true := List.forall_mem_singleton.2 rfl
  have hfields : ∀ f ∈ busyFields, IsField f := by decide +kernel
  have hshows : Shows impostorEntries impostors := by
    refine ⟨by decide +kernel, ?_, ?_⟩
    · intro e he
      rcases List.mem_cons.1 he with rfl | he
      · left
        decide +kernel
      · right
        obtain ⟨s, hs, rfl⟩ := List.mem_map.1 he
        use s, hs, rfl, ['\n'], hfeed
        rfl
    · intro s hs
      use s.entry, List.mem_cons_of_mem _ (List.mem_map_of_mem hs), rfl, ['\n'], hfeed
      rfl
  use hshows
  constructor
  · intro p
    rw [(reads_statLine.1 hshows 50).2]
    simp only [impostors, List.mem_cons, List.not_mem_nil, or_false]
    constructor
    · rintro ⟨s, rfl | rfl, rfl, -⟩
      · right
        rfl
      · left
        rfl
    · rintro (rfl | rfl)
      · exact ⟨_, .inr rfl, rfl, rfl⟩
      · exact ⟨_, .inl rfl, rfl, rfl⟩
  · constructor
    · apply ((reads_statLine.2 9 _ hfields hfeed).1 120 30 (by decide) (by decide)
        (by decide +kernel) (by decide +kernel)).1
    · have hshort : ∀ f ∈ busyFields.take 12, IsField f := by
        intro f hf
        apply hfields f (List.mem_of_mem_take hf)
      apply (reads_statLine.2 9 _ hshort hfeed).2 (by decide)

end Procfs

end PerfGate
