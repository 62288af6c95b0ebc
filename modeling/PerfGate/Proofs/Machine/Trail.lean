import Mathlib.Data.List.Induction
import PerfGate.Proofs.Machine.FileTree
import PerfGate.Proofs.Path
import PerfGate.Proofs.Text.Parts

/-!
# Where paths lead

A path has one place that it can lead to, whatever is there, and passes through certain others on
its way.  What is found at a path depends on its place, and on which of the places on the way are
directories.  So a change elsewhere is not seen through the path.
-/

namespace PerfGate

namespace Path

/-- A slash cuts a path into two. -/
theorem names_append_slash (front rest : Text) :
  names (front ++ '/' :: rest) = names front ++ names rest
  := by
  unfold names
  rw [Text.pieces_eq_splitOn, Text.pieces_eq_splitOn, Text.pieces_eq_splitOn,
    List.splitOn_append_cons_self, List.filter_append]

variable {dir name : Text}

/-- The last name of a path behind a directory. -/
theorem names_join (dir : Text) (h : IsEnding name) :
  names (join dir name) = names dir ++ [name]
  := by
  have hname : names name = [name] := by
    have hne : name ≠ [] := by
      rintro rfl
      cases h.length
    unfold names
    rw [Text.pieces_eq_splitOn, List.splitOn_eq_singleton h.slash_notMem]
    simp [hne]
  have hhead : (name.head? == some '/') = false := by simpa using h.head?
  unfold join
  rw [hhead, Bool.false_or]
  induction dir using List.reverseRecOn with
  | nil => apply hname
  | append_singleton front c =>
    rw [if_neg (by simp), List.getLast?_concat]
    by_cases hc : c = '/'
    · subst hc
      have hnil : names [] = [] := rfl
      rw [if_pos (by simp), List.append_assoc, List.singleton_append, names_append_slash,
        names_append_slash, hname, hnil, List.append_nil]
    · rw [if_neg (by simpa using hc), names_append_slash, hname]

theorem head?_join (hdir : dir ≠ []) (h : name.head? ≠ some '/') :
  (join dir name).head? = dir.head?
  := by
  obtain ⟨c, rest, rfl⟩ := List.exists_cons_of_ne_nil hdir
  unfold join
  rw [if_neg (by simpa using h)]
  split <;> rfl

theorem nul_notMem_join (hdir : '\x00' ∉ dir) (h : '\x00' ∉ name) :
  '\x00' ∉ join dir name
  := by
  intro hmem
  rcases mem_join hmem with hmem | hmem | hmem
  · apply hdir hmem
  · apply h hmem
  · cases hmem

end Path

namespace FileTree

/-! ### The way of a path -/

/-- Where a path starts. -/
def start (cwd : Place) (path : Text) : Place :=
  if (Text.untilNul path).head? == some '/' then [] else cwd

/-- The place that a path can lead to. -/
def goal (cwd : Place) (path : Text) : Place :=
  (Path.names (Text.untilNul path)).foldl stepTo (start cwd path)

/-- The places in which names are looked up. -/
def trailFrom (p : Place) : List Text → List Place
  | [] => []
  | name :: names => p :: trailFrom (stepTo p name) names

/-- The places in which the names of a path are looked up. -/
def trail (cwd : Place) (path : Text) : List Place :=
  trailFrom (start cwd path) (Path.names (Text.untilNul path))

theorem follow_eq_ok_iff {t : FileTree} {p q : Place} {names : List Text} :
  t.follow p names = .ok q ↔
    (∀ r ∈ trailFrom p names, t.at? r = some .directory) ∧ (∀ name ∈ names, fits name)
      ∧ q = names.foldl stepTo p
  := by
  induction names generalizing p with
  | nil => simp [follow, trailFrom, eq_comm]
  | cons name names ih =>
    rw [follow_cons_eq_ok_iff, ih, trailFrom, List.forall_mem_cons, List.forall_mem_cons,
      List.foldl_cons]
    tauto

variable {t t' : FileTree} {cwd : Place} {path : Text}

/-- A path leads nowhere but to its goal, and does if directories lead there. -/
theorem place_eq_ok_iff {p : Place} :
  t.place cwd path = .ok p ↔
    Text.untilNul path ≠ [] ∧ (∀ r ∈ trail cwd path, t.at? r = some .directory)
      ∧ (∀ name ∈ Path.names (Text.untilNul path), fits name) ∧ p = goal cwd path
  := by
  unfold place goal trail start
  dsimp only
  by_cases hempty : Text.untilNul path = []
  · simp [hempty]
  · rw [if_neg (by simpa using hempty), follow_eq_ok_iff]
    tauto

theorem goal_of_place {p : Place} (h : t.place cwd path = .ok p) :
  p = goal cwd path
  := (place_eq_ok_iff.1 h).2.2.2

/-- What has a name in a directory is right below it. -/
theorem goal_join {dir name : Text} (hne : dir ≠ []) (hnul : '\x00' ∉ dir)
    (h : IsEnding name) :
  goal cwd (Path.join dir name) = goal cwd dir ++ [name]
  := by
  have hdot : name ≠ ['.'] := by
    rintro rfl
    exact absurd h.length (by decide)
  have hdots : name ≠ ['.', '.'] := by
    rintro rfl
    exact absurd h.length (by decide)
  unfold goal start
  rw [Text.untilNul_eq_self (Path.nul_notMem_join hnul h.nul_notMem),
    Text.untilNul_eq_self hnul, Path.head?_join hne h.head?, Path.names_join dir h,
    List.foldl_append, List.foldl_cons, List.foldl_nil, stepTo, if_neg hdot, if_neg hdots]

/-! ### What a path shows -/

/-- What is found at a path. -/
def node? (t : FileTree) (cwd : Place) (path : Text) : Option Node := (t.stat cwd path).toOption

theorem node?_eq_some_iff {n : Node} :
  t.node? cwd path = some n ↔
    t.place cwd path = .ok (goal cwd path) ∧ t.at? (goal cwd path) = some n
      ∧ (wantsDirectory (Text.untilNul path) = true → n.isDirectory = true)
  := by
  unfold node? stat
  cases hplace : t.place cwd path with
  | error e => simp [bind, Except.bind, Except.toOption]
  | ok p =>
    obtain rfl := goal_of_place hplace
    cases hat : t.at? (goal cwd path) with
    | none => simp [bind, Except.bind, Except.toOption, hat]
    | some n' =>
      simp only [bind, Except.bind, hat]
      split
      · rename_i hslash
        simp only [Bool.and_eq_true, Bool.not_eq_true'] at hslash
        simp only [Except.toOption, reduceCtorEq, true_and, false_iff, not_and,
          Option.some.injEq]
        rintro rfl hdirectory
        rw [hdirectory hslash.1] at hslash
        cases hslash.2
      · rename_i hslash
        simp only [Except.toOption, Option.some.injEq, true_and]
        constructor
        · rintro rfl
          use rfl
          simpa using hslash
        · rintro ⟨rfl, -⟩
          rfl

theorem at?_of_node? {n : Node} (h : t.node? cwd path = some n) :
  t.at? (goal cwd path) = some n
  := (node?_eq_some_iff.1 h).2.1

theorem has_eq_isSome (t : FileTree) (cwd : Place) (path : Text) :
  t.has cwd path = (t.node? cwd path).isSome
  := by
  unfold has node?
  cases t.stat cwd path <;> rfl

theorem has_eq_false_of_at? (h : t.at? (goal cwd path) = none) :
  t.has cwd path = false
  := by
  rw [has_eq_isSome, Option.isSome_eq_false_iff, Option.isNone_iff_eq_none,
    Option.eq_none_iff_forall_ne_some]
  intro n hn
  cases h.symm.trans (at?_of_node? hn)

/-- Trees with the same at the place of a path, and the same directories on the way, show the same
at it. -/
theorem node?_congr
    (htrail : ∀ r ∈ trail cwd path, t'.at? r = some .directory ↔ t.at? r = some .directory)
    (hgoal : t'.at? (goal cwd path) = t.at? (goal cwd path)) :
  t'.node? cwd path = t.node? cwd path
  := by
  apply Option.ext
  intro n
  rw [node?_eq_some_iff, node?_eq_some_iff, place_eq_ok_iff, place_eq_ok_iff, hgoal,
    forall₂_congr htrail]

/-! ### Changes elsewhere -/

/-- Whether a path leads past a place: neither to it or below it, nor through there. -/
def Avoids (d cwd : Place) (path : Text) : Prop :=
  ∀ r ∈ goal cwd path :: trail cwd path, ¬ d <+: r

instance (d cwd : Place) (path : Text) : Decidable (Avoids d cwd path) :=
  inferInstanceAs (Decidable (∀ r ∈ goal cwd path :: trail cwd path, ¬ d <+: r))

theorem Avoids.goal_ne {d p : Place} (h : Avoids d cwd path) (hp : d <+: p) :
  goal cwd path ≠ p
  := by
  rintro rfl
  apply h _ List.mem_cons_self hp

/-- Whether two trees differ at a place and below it at most. -/
def SameOutside (d : Place) (t t' : FileTree) : Prop :=
  ∀ r, ¬ d <+: r → t'.at? r = t.at? r

/-- A place that is removed with all below it is all that is missing. -/
theorem at?_prune (t : FileTree) {d : Place} (hd : d ≠ []) (p : Place) :
  (t.prune d).at? p = if d <+: p then none else t.at? p
  := by
  have hlookup : ∀ nodes : List (Place × Node),
      (nodes.filter fun entry => !(d.isPrefixOf entry.1)).lookup p =
        if d <+: p then none else nodes.lookup p := by
    intro nodes
    induction nodes with
    | nil => simp
    | cons entry nodes ih =>
      obtain ⟨q, n⟩ := entry
      rw [List.filter_cons, List.lookup_cons]
      by_cases hq : d <+: q
      · rw [if_neg (by simpa using hq), ih]
        by_cases hp : p = q
        · rw [if_pos (hp ▸ hq), if_pos (hp ▸ hq)]
        · rw [beq_eq_false_iff_ne.2 hp]
      · rw [if_pos (by simpa [← List.isPrefixOf_iff_prefix] using hq), List.lookup_cons, ih]
        by_cases hp : p = q
        · rw [hp, if_neg hq, if_neg hq]
        · rw [beq_eq_false_iff_ne.2 hp]
  have hpruned : (t.prune d).nodes.lookup p = if d <+: p then none else t.nodes.lookup p :=
    hlookup t.nodes
  unfold at?
  rw [hpruned]
  by_cases hp : p = []
  · simp [hp, hd]
  · simp [hp]

/-- What differs in a place that a path leads past is not seen through the path. -/
theorem SameOutside.node? {d : Place} (h : SameOutside d t t') (hpath : Avoids d cwd path) :
  t'.node? cwd path = t.node? cwd path
  := by
  apply node?_congr
  · intro r hr
    rw [h r (hpath r (List.mem_cons_of_mem _ hr))]
  · apply h _ (hpath _ List.mem_cons_self)

/-- A file that was written is seen through its own path only. -/
theorem node?_of_write {other content : Text} (h : t.write cwd other content = .ok t')
    (hne : goal cwd path ≠ goal cwd other) :
  t'.node? cwd path = t.node? cwd path
  := by
  obtain ⟨p, hplace, hdirectory, hother, hp⟩ := write_eq_ok h
  obtain rfl := goal_of_place hplace
  apply node?_congr
  · intro r _
    by_cases hr : r = goal cwd other
    · subst hr
      rcases hp with ⟨hsame, -⟩ | ⟨mode, hfile⟩
      · rw [hsame]
      · simp [hfile, hdirectory]
    · rw [hother r hr]
  · apply hother _ hne

/-- A copy is seen through its own path only. -/
theorem node?_of_copy {source target : Text} (h : t.copy cwd source target = .ok t')
    (hne : goal cwd path ≠ goal cwd target) :
  t'.node? cwd path = t.node? cwd path
  := by
  obtain ⟨p, content, mode, -, hplace, -, hdirectory, hat⟩ := copy_eq_ok h
  obtain rfl := goal_of_place hplace
  apply node?_congr
  · intro r _
    rw [hat]
    split
    · rename_i hr
      simp [hr, hdirectory]
    · rfl
  · rw [hat, if_neg hne]

/-- What was copied is found at both paths. -/
theorem exists_node?_of_copy {source target : Text} (h : t.copy cwd source target = .ok t') :
  ∃ n, t.node? cwd source = some n ∧ t'.node? cwd target = some n
  := by
  obtain ⟨content, mode, p, t₁, hsource, hopen, rfl⟩ := exists_of_copy h
  obtain ⟨hplace, hslash, hdirectory, -⟩ := openFile_eq_ok hopen
  have hplace' := (changes_copy h).place hplace
  obtain rfl := goal_of_place hplace
  use .file content mode
  constructor
  · rw [FileTree.node?, hsource]
    rfl
  · rw [node?_eq_some_iff, hslash, at?_put t₁ (ne_nil_of_at?_ne hdirectory), if_pos rfl]
    use hplace', rfl
    nofun

/-- A file that is opened is created if nothing is there. -/
theorem node?_of_openFile {p : Place} {lock : Text} (h : t.openFile cwd lock = .ok (p, t'))
    (hpath : goal cwd lock ≠ goal cwd path ∨ t.node? cwd path ≠ none) :
  t'.node? cwd path = t.node? cwd path
  := by
  obtain ⟨hplace, -, -, ⟨-, rfl⟩ | ⟨hnone, rfl⟩⟩ := openFile_eq_ok h
  · rfl
  · have hp : p ≠ [] := by
      rintro rfl
      cases hnone
    obtain rfl := goal_of_place hplace
    have hne : goal cwd path ≠ goal cwd lock := by
      rcases hpath with hne | hsome
      · apply hne.symm
      · obtain ⟨n, hn⟩ := Option.ne_none_iff_exists'.1 hsome
        intro heq
        rw [← heq, at?_of_node? hn] at hnone
        cases hnone
    apply node?_congr
    · intro r _
      rw [at?_put t hp]
      split
      · rename_i hr
        simp [hr, hnone]
      · rfl
    · rw [at?_put t hp, if_neg hne]

end FileTree

end PerfGate
