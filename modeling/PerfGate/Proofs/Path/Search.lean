import PerfGate.Machine.FileTree
import PerfGate.Path.Search
import PerfGate.Proofs.Dialogue
import PerfGate.Proofs.First
import PerfGate.Proofs.Text.Pieces

/-!
# Search for programs

The directories of a search path are gone through in order, each at most once, and a program is
found in the first one in which there is something of its name that may be executed and is no
directory (`locate?_finds_first`).  Behind the directory where it is found no other is looked into
(`play_locateOn?`).
-/

namespace PerfGate

/-! ### File systems -/

/-- What a file system tells about paths. -/
structure PathFacts where
  /-- Whether there is something that may be executed, be it a directory or not. -/
  mayExecute : Text → Bool
  /-- Whether there is a directory. -/
  isDirectory : Text → Bool

namespace PathFacts

/-- Whether there is something that may be executed and is no directory. -/
def HasProgram (fs : PathFacts) (path : Text) : Prop :=
  fs.mayExecute path = true ∧ fs.isDirectory path = false

instance (fs : PathFacts) (path : Text) : Decidable (fs.HasProgram path) :=
  inferInstanceAs (Decidable (_ ∧ _))

/-- Whether a host answers by a file system. -/
structure Answers (fs : PathFacts) (reply : (q : Request) → q.Answer) : Prop where
  /-- It tells what may be executed. -/
  mayExecute : ∀ path, reply (.mayExecute path) = fs.mayExecute path
  /-- It tells what is a directory. -/
  isDirectory : ∀ path, reply (.isDirectory path) = fs.isDirectory path

/-- What a file tree tells about the paths from a working directory. -/
def ofTree (t : FileTree) (cwd : Place) : PathFacts where
  mayExecute := t.mayExecute cwd
  isDirectory := t.isDirectory cwd

end PathFacts

/-! ### Directories -/

/-- Where a program is in a directory; the empty one stands for the working directory. -/
def Path.inDirectory (dir program : Text) : Text :=
  (if dir.isEmpty then ['.'] else dir) ++ '/' :: program

theorem Path.candidates_eq (search : Text) {program : Text} (hne : program ≠ [])
    (hslash : '/' ∉ program) :
  Path.candidates search program =
    (search.splitOn ':').map fun dir => Path.inDirectory dir program
  := by
  have hempty : program.isEmpty = false := by simpa using hne
  have hcontains : program.contains '/' = false := by simpa using hslash
  rw [Path.candidates, hempty, hcontains, Path.searchDirectories, Text.pieces_eq_splitOn,
    List.map_map]
  rfl

/-! ### Searches -/

section

variable (reply : (q : Request) → q.Answer)

/-- What is asked about a path: whether it may be executed, and if so whether it is a directory. -/
def looked (path : Text) : List Exchange :=
  (Request.mayExecute path).answered reply ::
    if reply (.mayExecute path) then [(Request.isDirectory path).answered reply] else []

/-- Whether a host answers that a path may be executed and is no directory. -/
def isFound (path : Text) : Bool := reply (.mayExecute path) && !reply (.isDirectory path)

theorem play_isExecutable (path : Text) :
  (isExecutable path : Dialogue _).play reply = (looked reply path, .ok (isFound reply path))
  := by
  refine (Dialogue.play_bind_of_ok (Dialogue.play_single reply (.mayExecute path))).trans ?_
  unfold looked isFound
  cases reply (.mayExecute path) <;> rfl

/-- Paths are looked at in order, up to the first one that may be executed. -/
theorem play_firstExecutable? (paths : List Text) :
  (firstExecutable? paths : Dialogue _).play reply =
    ((paths.take (paths.findIdx (isFound reply) + 1)).flatMap (looked reply),
      .ok (paths.find? (isFound reply)))
  := by
  induction paths with
  | nil => rfl
  | cons path paths ih =>
    refine (Dialogue.play_bind_of_ok (play_isExecutable reply path)).trans ?_
    rw [List.findIdx_cons, List.find?_cons, List.take_succ_cons, List.flatMap_cons]
    cases isFound reply path with
    | true => rfl
    | false =>
      simp only [Bool.false_eq_true, if_false, ih]
      rfl

/-- The directories of a search path are looked into in order, up to the first one with the
program. -/
theorem play_locateOn? (search : Text) {program : Text} (hne : program ≠ [])
    (hslash : '/' ∉ program) :
  (locateOn? search program : Dialogue _).play reply =
    (((search.splitOn ':').take ((search.splitOn ':').findIdx (fun dir =>
          isFound reply (Path.inDirectory dir program)) + 1)).flatMap fun dir =>
        looked reply (Path.inDirectory dir program),
      .ok (((search.splitOn ':').find? fun dir =>
          isFound reply (Path.inDirectory dir program)).map fun dir =>
        Path.inDirectory dir program))
  := by
  rw [locateOn?, Path.candidates_eq search hne hslash, play_firstExecutable?, List.find?_map,
    List.findIdx_map, ← List.map_take, List.flatMap_map]
  rfl

end

variable {fs : PathFacts} {reply : (q : Request) → q.Answer} {program search : Text}

theorem PathFacts.Answers.isFound_iff (h : fs.Answers reply) (path : Text) :
  isFound reply path = true ↔ fs.HasProgram path
  := by
  rw [isFound, h.mayExecute, h.isDirectory, Bool.and_eq_true, Bool.not_eq_true',
    PathFacts.HasProgram]

/-- A program is found in the first directory of the search path that has it, and in none exactly if
none has it; the directories are looked into one after the other, each at most once. -/
theorem locate?_finds_first (hreply : fs.Answers reply) (hne : program ≠ [])
    (hslash : '/' ∉ program)
    (hsearch : (Environment.ofEntries (reply .environment) "PATH".toList).getD
      "/usr/local/bin:/usr/bin:/bin".toList = search) :
  ∃ (tried : List Text) (result : Option Text),
    (locate? program : Dialogue _).play reply =
        (Request.environment.answered reply ::
            tried.flatMap fun dir => looked reply (Path.inDirectory dir program),
          .ok result)
      ∧ tried <+: search.splitOn ':'
      ∧ (∀ path, result = some path ↔
        ∃ dir, IsFirst (fun dir => fs.HasProgram (Path.inDirectory dir program))
            (search.splitOn ':') dir
          ∧ Path.inDirectory dir program = path)
      ∧ (result = none ↔
        ∀ dir ∈ search.splitOn ':', ¬fs.HasProgram (Path.inDirectory dir program))
  := by
  let found dir := isFound reply (Path.inDirectory dir program)
  have htest : ∀ dir, found dir = true ↔ fs.HasProgram (Path.inDirectory dir program) :=
    fun dir => hreply.isFound_iff (Path.inDirectory dir program)
  refine ⟨(search.splitOn ':').take ((search.splitOn ':').findIdx found + 1),
    ((search.splitOn ':').find? found).map fun dir => Path.inDirectory dir program, ?_,
    List.take_prefix _ _, ?_, ?_⟩
  · have hpath : Path.searchPath (.ofEntries (reply .environment)) = search := hsearch
    refine (Dialogue.play_bind_of_ok (Dialogue.play_single reply .environment)).trans ?_
    rw [hpath, play_locateOn? reply search hne hslash]
    rfl
  · intro path
    rw [Option.map_eq_some_iff]
    simp only [find?_eq_some_iff_isFirst htest]
  · rw [Option.map_eq_none_iff, find?_eq_none_iff_forall htest]

/-- A working directory with a tool of its own, a directory of the same name in one directory below
it and another tool in the other. -/
def toolTree : FileTree where
  nodes := [(["w".toList], .directory), (["w".toList, "tool".toList], .file [] 493),
    (["w".toList, "x".toList], .directory),
    (["w".toList, "x".toList, "tool".toList], .directory),
    (["w".toList, "y".toList], .directory),
    (["w".toList, "y".toList, "tool".toList], .file [] 493)]

/-- The answers of a host whose search path has empty directories inside and at its end. -/
def toolReply : (q : Request) → q.Answer
  | .environment => ["PATH=x::y:".toList]
  | .mayExecute path => toolTree.mayExecute ["w".toList] path
  | .isDirectory path => toolTree.isDirectory ["w".toList] path
  | q => q.calm

/-- The directory of the right name is passed by, and the tool is found in the working directory. -/
theorem locate?_finds_first_toolTree :
  ∃ tried, (locate? "tool".toList : Dialogue _).play toolReply =
      (Request.environment.answered toolReply ::
          tried.flatMap fun dir => looked toolReply (Path.inDirectory dir "tool".toList),
        .ok (some "./tool".toList))
    ∧ tried <+: ["x", "", "y", ""].map String.toList
  := by
  have hreply : (PathFacts.ofTree toolTree ["w".toList]).Answers toolReply :=
    ⟨fun _ => rfl, fun _ => rfl⟩
  obtain ⟨tried, result, hplay, htried, hfound, -⟩ :=
    @locate?_finds_first _ _ "tool".toList "x::y:".toList hreply (by decide) (by decide)
      (by decide +kernel)
  have hhere : (PathFacts.ofTree toolTree ["w".toList]).HasProgram
      (Path.inDirectory [] "tool".toList) := by
    decide +kernel
  have hbefore : ∀ dir ∈ ["x".toList], ¬(PathFacts.ofTree toolTree ["w".toList]).HasProgram
      (Path.inDirectory dir "tool".toList) := by
    decide +kernel
  have hresult : result = some "./tool".toList :=
    (hfound _).2 ⟨[], ⟨hhere, ["x".toList], ["y".toList, []], rfl, hbefore⟩, rfl⟩
  rw [hresult] at hplay
  exact ⟨tried, hplay, htried⟩

end PerfGate
