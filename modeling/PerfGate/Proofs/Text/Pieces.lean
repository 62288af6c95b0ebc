import PerfGate.Text

/-!
# Pieces and lines

Cutting a text at a character is `List.splitOn`, so joining the pieces with that character
gives the text back.  A text of lines is cut into those lines again, whether or not its last
line feed is kept; conversely the lines of a text, written one by one, are the text with the
carriage returns at its line ends taken away.
-/

namespace PerfGate

namespace Text

/-! ### Pieces -/

theorem consFirst_eq_modifyHead {c : Char} {ts : List Text} (h : ts ≠ []) :
  consFirst c ts = ts.modifyHead (List.cons c)
  := by
  cases ts with
  | nil => contradiction
  | cons t ts => rfl

theorem pieces_eq_splitOnP (p : Char → Bool) (t : Text) :
  pieces p t = t.splitOnP p
  := by
  induction t with
  | nil => rfl
  | cons c t ih =>
    rw [pieces, List.splitOnP_cons_eq_if_modifyHead, consFirst_eq_modifyHead (pieces_ne_nil p t), ih]

/-- The pieces between the occurrences of a character. -/
theorem pieces_eq_splitOn (c : Char) (t : Text) :
  pieces (· == c) t = t.splitOn c
  := by
  rw [pieces_eq_splitOnP, List.splitOn_eq_splitOnP]

/-- A piece does not hold the character that the text was cut at. -/
theorem notMem_of_mem_splitOn {c : Char} {t l : Text} (h : l ∈ t.splitOn c) :
  c ∉ l
  := by
  induction t generalizing l with
  | nil => simp_all
  | cons a t ih =>
    rw [List.splitOn_cons_eq_if_modifyHead] at h
    split at h
    · rcases List.mem_cons.1 h with rfl | h
      · simp
      · apply ih h
    · rename_i ha
      obtain ⟨p, ps, hps⟩ := List.exists_cons_of_ne_nil (List.splitOn_ne_nil c t)
      rw [hps] at h ih
      rcases List.mem_cons.1 h with rfl | h
      · have hp : c ∉ p := ih List.mem_cons_self
        simp only [beq_iff_eq] at ha
        simp only [List.mem_cons, not_or]
        constructor
        · exact fun e => ha e.symm
        · apply hp
      · apply ih (List.mem_cons_of_mem p h)

theorem mem_of_mem_splitOn {a c : Char} {t l : Text} (h : l ∈ t.splitOn c) (ha : a ∈ l) :
  a ∈ t
  := by
  induction t generalizing l with
  | nil => simp_all
  | cons b t ih =>
    rw [List.splitOn_cons_eq_if_modifyHead] at h
    split at h
    · rcases List.mem_cons.1 h with rfl | h
      · cases ha
      · apply List.mem_cons_of_mem _ (ih h ha)
    · obtain ⟨p, ps, hps⟩ := List.exists_cons_of_ne_nil (List.splitOn_ne_nil c t)
      rw [hps] at h ih
      rcases List.mem_cons.1 h with rfl | h
      · rcases List.mem_cons.1 ha with rfl | ha
        · apply List.mem_cons_self
        · apply List.mem_cons_of_mem _ (ih List.mem_cons_self ha)
      · apply List.mem_cons_of_mem _ (ih (List.mem_cons_of_mem p h) ha)

/-- The last piece is empty exactly if the text is, or ends with the character. -/
theorem getLast?_splitOn_eq_nil_iff (c : Char) (t : Text) :
  (t.splitOn c).getLast? = some [] ↔ t = [] ∨ t.getLast? = some c
  := by
  induction t with
  | nil => simp
  | cons a t ih =>
    have hne := List.splitOn_ne_nil c t
    have hjoin : [c].intercalate (t.splitOn c) = t := List.intercalate_splitOn c
    rw [List.splitOn_cons_eq_if_modifyHead]
    by_cases ha : a = c
    · rw [if_pos (beq_iff_eq.2 ha), List.getLast?_cons_of_ne_nil hne, ih]
      cases t with
      | nil => simp [ha]
      | cons b t => simp
    · rw [if_neg (by simpa using ha)]
      generalize t.splitOn c = ps at hne hjoin ih
      -- the first piece grows, so it is the last one and empty only if the text was empty
      match ps, hne with
      | [p], _ =>
        have hp : p = t := by simpa using hjoin
        subst hp
        cases p with
        | nil => simp [ha]
        | cons b p => simpa using ih
      | p :: q :: ps, _ =>
        have ht : t ≠ [] := by
          rintro rfl
          simp at hjoin
        obtain ⟨b, t, rfl⟩ := List.exists_cons_of_ne_nil ht
        simpa using ih

/-! ### Lines -/

/-- The text of lines ends with an empty piece. -/
theorem unlines_eq_intercalate (ls : List Text) :
  unlines ls = ['\n'].intercalate (ls ++ [[]])
  := by
  induction ls with
  | nil => rfl
  | cons l ls ih =>
    rw [unlines, List.flatMap_cons, ← unlines, ih, List.cons_append,
      List.intercalate_cons_of_ne_nil (by simp)]

theorem dropLast_unlines (ls : List Text) :
  (unlines ls).dropLast = ['\n'].intercalate ls
  := by
  induction ls with
  | nil => rfl
  | cons l ls ih =>
    cases ls with
    | nil => simp [unlines]
    | cons k ls =>
      have hne : unlines (k :: ls) ≠ [] := by simp [unlines]
      rw [List.intercalate_cons_cons, ← ih]
      show (l ++ ['\n'] ++ unlines (k :: ls)).dropLast = _
      rw [List.dropLast_append_of_ne_nil hne]

theorem rawLines_eq (t : Text) :
  rawLines t = if t = [] ∨ t.getLast? = some '\n' then (t.splitOn '\n').dropLast
    else t.splitOn '\n'
  := by
  unfold rawLines
  rw [pieces_eq_splitOn]
  simp only [beq_iff_eq, getLast?_splitOn_eq_nil_iff]

theorem getLast?_unlines {ls : List Text} (h : ls ≠ []) :
  (unlines ls).getLast? = some '\n'
  := by
  obtain ⟨ls, l, rfl⟩ := List.eq_nil_or_concat ls |>.resolve_left h
  simp [unlines]

theorem splitOn_unlines {ls : List Text} (h : ∀ l ∈ ls, '\n' ∉ l) :
  (unlines ls).splitOn '\n' = ls ++ [[]]
  := by
  have hnl : ∀ l ∈ ls ++ [[]], '\n' ∉ l := by
    intro l hl
    rcases List.mem_append.1 hl with hl | hl
    · apply h l hl
    · simp [List.mem_singleton.1 hl]
  rw [unlines_eq_intercalate, List.splitOn_intercalate '\n' hnl (by simp)]

/-- Lines are read back from their text. -/
theorem rawLines_unlines {ls : List Text} (h : ∀ l ∈ ls, '\n' ∉ l) :
  rawLines (unlines ls) = ls
  := by
  have hend : unlines ls = [] ∨ (unlines ls).getLast? = some '\n' := by
    cases ls with
    | nil => left; rfl
    | cons l ls => right; apply getLast?_unlines (by simp)
  rw [rawLines_eq, if_pos hend, splitOn_unlines h, List.dropLast_concat]

/-- The lines of the text of any lines are the pieces of these. -/
theorem rawLines_unlines_eq (ls : List Text) :
  rawLines (unlines ls) = ls.flatMap (List.splitOn '\n')
  := by
  induction ls with
  | nil => rfl
  | cons l ls ih =>
    have hcut : (unlines (l :: ls)).splitOn '\n' = l.splitOn '\n' ++ (unlines ls).splitOn '\n' := by
      rw [unlines, List.flatMap_cons, List.append_assoc, List.singleton_append, ← unlines,
        List.splitOn_append_cons_self]
    have hlast : (unlines ls).splitOn '\n' ≠ [] := List.splitOn_ne_nil _ _
    have hend : unlines ls = [] ∨ (unlines ls).getLast? = some '\n' := by
      cases ls with
      | nil => left; rfl
      | cons k ls => right; apply getLast?_unlines (by simp)
    rw [rawLines_eq, if_pos hend] at ih
    rw [rawLines_eq, if_pos (.inr (getLast?_unlines (by simp))), hcut,
      List.dropLast_append_of_ne_nil hlast, ih, List.flatMap_cons]

/-- A text ends as its last piece does, unless that piece is empty. -/
theorem getLast?_intercalate {ls : List Text} {l : Text} (h : ls.getLast? = some l) (hl : l ≠ []) :
  (['\n'].intercalate ls).getLast? = l.getLast?
  := by
  induction ls with
  | nil => simp at h
  | cons k ls ih =>
    cases ls with
    | nil =>
      obtain rfl : k = l := by simpa using h
      simp
    | cons j ls =>
      have htail := ih (by simpa using h)
      obtain ⟨c, hc⟩ := Option.isSome_iff_exists.1 (List.getLast?_isSome.2 hl)
      rw [List.intercalate_cons_cons, List.getLast?_append, htail, hc]
      rfl

/-- Lines are read back from their text without its last line feed, if the last line is not
empty. -/
theorem rawLines_dropLast_unlines {ls : List Text} {l : Text} (h : ∀ l ∈ ls, '\n' ∉ l)
    (hlast : ls.getLast? = some l) (hl : l ≠ []) :
  rawLines (unlines ls).dropLast = ls
  := by
  have hne : ls ≠ [] := by
    rintro rfl
    simp at hlast
  have hmem : l ∈ ls := List.mem_of_getLast? hlast
  have hend : ¬(['\n'].intercalate ls = [] ∨ (['\n'].intercalate ls).getLast? = some '\n') := by
    have heq := getLast?_intercalate hlast hl
    rintro (hnil | hfeed)
    · rw [hnil] at heq
      exact hl (List.getLast?_eq_none_iff.1 heq.symm)
    · rw [heq] at hfeed
      exact h l hmem (List.mem_of_getLast? hfeed)
  rw [dropLast_unlines, rawLines_eq, if_neg hend, List.splitOn_intercalate '\n' h hne]

/-! ### Carriage returns -/

theorem dropReturn_eq_self_iff {l : Text} :
  dropReturn l = l ↔ l.getLast? ≠ some '\r'
  := by
  constructor
  · intro h hlast
    obtain ⟨k, rfl⟩ := List.getLast?_eq_some_iff.1 hlast
    simpa [dropReturn] using congrArg List.length h
  · intro h
    simp [dropReturn, h]

theorem dropReturn_prefix (l : Text) :
  dropReturn l <+: l
  := by
  unfold dropReturn
  split
  · apply List.dropLast_prefix
  · apply List.prefix_rfl

theorem mem_of_mem_dropReturn {c : Char} {l : Text} (h : c ∈ dropReturn l) :
  c ∈ l
  := by
  unfold dropReturn at h
  split at h
  · apply (List.dropLast_sublist l).mem h
  · apply h

theorem mem_splitOn_of_mem_rawLines {t p : Text} (h : p ∈ rawLines t) :
  p ∈ t.splitOn '\n'
  := by
  rw [rawLines_eq] at h
  split at h
  · apply (List.dropLast_sublist _).mem h
  · apply h

/-- No line holds a line feed. -/
theorem feed_notMem_of_mem_lines {t l : Text} (h : l ∈ lines t) :
  '\n' ∉ l
  := by
  obtain ⟨p, hp, rfl⟩ := List.mem_map.1 h
  intro hfeed
  exact notMem_of_mem_splitOn (mem_splitOn_of_mem_rawLines hp) (mem_of_mem_dropReturn hfeed)

/-- The characters of a line are those of the text. -/
theorem mem_of_mem_lines {c : Char} {t l : Text} (h : l ∈ lines t) (hc : c ∈ l) :
  c ∈ t
  := by
  obtain ⟨p, hp, rfl⟩ := List.mem_map.1 h
  apply mem_of_mem_splitOn (mem_splitOn_of_mem_rawLines hp) (mem_of_mem_dropReturn hc)

/-- Exactly the lines without a carriage return at their ends are kept as they are. -/
theorem map_dropReturn_eq_self_iff {ls : List Text} :
  ls.map dropReturn = ls ↔ ∀ l ∈ ls, l.getLast? ≠ some '\r'
  := by
  conv => lhs; rhs; rw [← List.map_id ls]
  rw [List.map_eq_map_iff]
  simp only [id_eq, dropReturn_eq_self_iff]

/-- A line of a text: it holds no line feed, and it does not end with a carriage return. -/
def IsLine (l : Text) : Prop := '\n' ∉ l ∧ l.getLast? ≠ some '\r'

theorem lines_unlines {ls : List Text} (h : ∀ l ∈ ls, IsLine l) :
  lines (unlines ls) = ls
  := by
  rw [lines, rawLines_unlines fun l hl => (h l hl).1]
  apply map_dropReturn_eq_self_iff.2 fun l hl => (h l hl).2

theorem lines_dropLast_unlines {ls : List Text} {l : Text} (h : ∀ l ∈ ls, IsLine l)
    (hlast : ls.getLast? = some l) (hl : l ≠ []) :
  lines (unlines ls).dropLast = ls
  := by
  rw [lines, rawLines_dropLast_unlines (fun l hl => (h l hl).1) hlast hl]
  apply map_dropReturn_eq_self_iff.2 fun l hl => (h l hl).2

/-- Without its last line feed the text of lines does not end with one, if the last line is not
empty. -/
theorem getLast?_dropLast_unlines {ls : List Text} {l : Text} (h : ∀ l ∈ ls, IsLine l)
    (hlast : ls.getLast? = some l) (hl : l ≠ []) :
  (unlines ls).dropLast ≠ [] ∧ (unlines ls).dropLast.getLast? ≠ some '\n'
  := by
  have heq := getLast?_intercalate hlast hl
  rw [dropLast_unlines]
  constructor
  · intro hnil
    rw [hnil] at heq
    exact hl (List.getLast?_eq_none_iff.1 heq.symm)
  · intro hfeed
    rw [heq] at hfeed
    exact (h l (List.mem_of_getLast? hlast)).1 (List.mem_of_getLast? hfeed)

/-- The lines of a text, each followed by a line feed but the last one only if the text ends
with one, are its pieces without the carriage returns at their ends. -/
theorem unlines_lines (t : Text) :
  (if t.isEmpty || t.getLast? == some '\n' then unlines (lines t) else (unlines (lines t)).dropLast)
    = ['\n'].intercalate ((t.splitOn '\n').map dropReturn)
  := by
  simp only [lines, rawLines_eq, Bool.or_eq_true, List.isEmpty_iff, beq_iff_eq]
  split
  · rename_i hend
    have hlast := (getLast?_splitOn_eq_nil_iff '\n' t).2 hend
    obtain ⟨ps, hps⟩ := List.getLast?_eq_some_iff.1 hlast
    rw [hps, List.dropLast_concat, unlines_eq_intercalate, List.map_append]
    rfl
  · rw [dropLast_unlines]

/-- Taking the carriage returns from the ends of the pieces keeps a text exactly if no piece
ends with one. -/
theorem intercalate_dropReturn_eq_self_iff (t : Text) :
  ['\n'].intercalate ((t.splitOn '\n').map dropReturn) = t
    ↔ ∀ l ∈ t.splitOn '\n', l.getLast? ≠ some '\r'
  := by
  rw [← map_dropReturn_eq_self_iff]
  constructor
  · intro h
    have hnl : ∀ l ∈ (t.splitOn '\n').map dropReturn, '\n' ∉ l := by
      intro l hl
      obtain ⟨k, hk, rfl⟩ := List.mem_map.1 hl
      intro hmem
      exact notMem_of_mem_splitOn hk (mem_of_mem_dropReturn hmem)
    -- cutting both sides again compares the pieces one by one
    have hcut := congrArg (List.splitOn '\n') h
    rwa [List.splitOn_intercalate '\n' hnl (by simp)] at hcut
  · intro h
    rw [h, List.intercalate_splitOn]

end Text

end PerfGate
