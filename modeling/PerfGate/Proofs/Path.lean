import Mathlib.Data.List.TakeWhile
import Mathlib.Tactic.Tauto
import Mathlib.Tactic.Use
import PerfGate.Path
import PerfGate.Proofs.Text.Pieces

/-!
# Names in paths

What follows the last name of a path is part of that name, behind a directory as well.
-/

namespace PerfGate

/-- Whether a text can follow the beginning of a name: it holds no slash and no NUL, and is no
name of dots with it. -/
structure IsEnding (s : Text) : Prop where
  /-- It holds no slash. -/
  slash_notMem : '/' ∉ s
  /-- It holds no NUL. -/
  nul_notMem : '\x00' ∉ s
  /-- It is longer than two dots. -/
  length : 2 < s.length

theorem IsEnding.head? {s : Text} (h : IsEnding s) :
  s.head? ≠ some '/'
  := fun hhead => h.slash_notMem (List.mem_of_head? hhead)

namespace Path

theorem mem_join {dir path : Text} {a : Char} (h : a ∈ join dir path) :
  a ∈ dir ∨ a ∈ path ∨ a = '/'
  := by
  unfold join at h
  split at h
  · right
    left
    apply h
  · split at h
    · rw [List.mem_append] at h
      tauto
    · rw [List.mem_append, List.mem_cons] at h
      tauto

theorem join_ne_nil {dir path : Text} (h : path ≠ []) :
  join dir path ≠ []
  := by
  unfold join
  split
  · apply h
  · split
    · simp [h]
    · simp

/-- What follows the last name of a path follows it behind a directory as well. -/
theorem join_append (dir path : Text) {s : Text} (hs : s.head? ≠ some '/') :
  join dir (path ++ s) = join dir path ++ s
  := by
  unfold join
  cases path with
  | nil =>
    have hhead : (s.head? == some '/') = false := by simpa using hs
    rw [List.nil_append, hhead]
    cases dir.isEmpty with
    | true => simp
    | false =>
      simp only [List.head?_nil, List.append_nil]
      split
      · simp_all
      · split <;> simp_all
  | cons c path =>
    rw [List.cons_append, List.head?_cons, List.head?_cons, ← List.cons_append]
    split
    · rfl
    · split
      · rw [List.append_assoc]
      · simp

/-- The names of a path are those of its directories and its last name. -/
theorem exists_names_append (b : Text) :
  ∃ front, ∀ s, '/' ∉ s → s ≠ [] → names (b ++ s) = front ++ [fileName b ++ s]
  := by
  have hname : '/' ∉ fileName b := by
    intro h
    have := List.mem_takeWhile_imp (List.mem_reverse.1 h)
    simp at this
  have hsplit : (b.reverse.dropWhile (· != '/')).reverse ++ fileName b = b := by
    rw [fileName, ← List.reverse_append, List.takeWhile_append_dropWhile, List.reverse_reverse]
  have hlast : ∀ s, '/' ∉ s → '/' ∉ fileName b ++ s := by
    intro s hs
    simp [hname, hs]
  cases hdir : b.reverse.dropWhile (· != '/') with
  | nil =>
    use []
    intro s hs hne
    rw [hdir] at hsplit
    have hb : fileName b = b := hsplit
    have hall := hlast s hs
    rw [hb] at hall ⊢
    unfold names
    rw [Text.pieces_eq_splitOn, List.splitOn_eq_singleton hall]
    simp [hne]
  | cons c rest =>
    have hc : c = '/' := by
      have := List.head?_dropWhile_not (· != '/') b.reverse
      simpa [hdir] using this
    use names rest.reverse
    intro s hs hne
    rw [hdir, hc, List.reverse_cons, List.append_assoc, List.singleton_append] at hsplit
    have hpath : b ++ s = rest.reverse ++ '/' :: (fileName b ++ s) := by
      rw [← List.cons_append, ← List.append_assoc, hsplit]
    unfold names
    rw [hpath, Text.pieces_eq_splitOn, List.splitOn_append_cons_self,
      List.splitOn_eq_singleton (hlast s hs), List.filter_append, Text.pieces_eq_splitOn]
    simp [hne]

end Path

end PerfGate
