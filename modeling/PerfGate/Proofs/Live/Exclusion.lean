import Mathlib.Logic.Relation
import PerfGate.Proofs.Live.Tenure

/-!
# Mutual exclusion of invocations

Any number of invocations share a file for the run lock and a configuration of the service under
test.  They take turns in any order, one exchange at a time, and any of them may be killed between
two exchanges.  An exclusive lock is granted to one open file at a time, and is gone with the
process that holds it.  Then no two invocations hold the run lock at once, an invocation that is
refused it does nothing but fail, and the configuration is as it was when all have ended without
being killed.
-/

namespace PerfGate

namespace Live

open FileTree Protocol

/-! ### Invocations -/

/-- Invocations with one run lock and one configuration. -/
structure Crew (ι : Type) where
  /-- The working directory. -/
  cwd : Place
  /-- The file of the run lock. -/
  lock : Text
  /-- The configuration of the service under test. -/
  config : Text
  /-- What each invocation is for. -/
  errand : ι → Errand
  /-- All use the run lock. -/
  lockFile_eq : ∀ i, (errand i).config.lockFile = lock
  /-- All use the configuration. -/
  subjectConfig_eq : ∀ i, (errand i).config.subjectConfig = config

/-- Where an invocation takes place. -/
def Crew.ground {ι : Type} (crew : Crew ι) (i : ι) : Ground where
  cwd := crew.cwd
  lock := crew.lock
  config := crew.config
  named path := path = crew.lock ∨ path = crew.config ∨ (crew.errand i).Produces path
  spared := ∀ path, (crew.errand i).Publishes path → goal crew.cwd crew.config ≠ goal crew.cwd path
  lock_named := .inl rfl
  config_named := .inr (.inl rfl)

/-- A lock that was granted. -/
structure Lease (ι : Type) where
  /-- Whose it is. -/
  owner : ι
  /-- Its number. -/
  lock : Nat
  /-- The place of the file that is locked; no run removes the file of its lock. -/
  place : Place

/-- The files, the locks and how far each invocation has come. -/
structure Scene (ι : Type) where
  /-- The files. -/
  files : FileTree
  /-- The locks that are held. -/
  leases : List (Lease ι) := []
  /-- What each invocation goes on with, unless it was killed. -/
  rest : ι → Option (Dialogue Unit)
  /-- The exchanges of each invocation so far. -/
  told : ι → List Exchange := fun _ => []

/-- The private directories that were created in some exchanges. -/
def created (es : List Exchange) : List Text := es.foldl Ground.dirsAfter []

section

variable {ι : Type} [DecidableEq ι]

/-- Whether an exchange of an invocation makes other locks of some locks: one on a file is granted
if there is none on it. -/
def Crew.Grants (crew : Crew ι) (i : ι) (leases : List (Lease ι)) (t : FileTree) :
    Exchange → List (Lease ι) → Prop
  | ⟨.takeLock path, .ok lock⟩, leases' =>
    ∃ p, t.place crew.cwd path = .ok p ∧ (∀ l ∈ leases, l.place ≠ p)
      ∧ leases' = ⟨i, lock, p⟩ :: leases
  | ⟨.takeLock path, .error .held⟩, leases' =>
    (∃ l ∈ leases, t.place crew.cwd path = .ok l.place) ∧ leases' = leases
  | ⟨.releaseLock lock, _⟩, leases' =>
    leases' = leases.filter fun l => !(l.owner = i && l.lock = lock)
  | _, leases' => leases' = leases

/-- The scene behind an exchange of an invocation. -/
def Scene.answered (s : Scene ι) (i : ι) (x : Dialogue Unit) (e : Exchange) (files : FileTree)
    (leases : List (Lease ι)) : Scene ι where
  files
  leases
  rest := Function.update s.rest i (some x)
  told := Function.update s.told i (s.told i ++ [e])

/-- The scene when an invocation was killed: its locks are gone. -/
def Scene.killed (s : Scene ι) (i : ι) : Scene ι where
  files := s.files
  leases := s.leases.filter fun l => !(l.owner = i)
  rest := Function.update s.rest i none
  told := s.told

/-- Whether a scene may come next. -/
inductive Crew.Step (crew : Crew ι) : Scene ι → Scene ι → Prop
  /-- An invocation is answered. -/
  | answer {s : Scene ι} (i : ι) {q : Request} {next : q.Answer → Dialogue Unit} (a : q.Answer)
      {files : FileTree} {leases : List (Lease ι)} (hrest : s.rest i = some (.ask q next))
      (hfiles : (crew.ground i).Follows (created (s.told i)) s.files ⟨q, a⟩ files)
      (hleases : crew.Grants i s.leases s.files ⟨q, a⟩ leases) :
      Step crew s (s.answered i (next a) ⟨q, a⟩ files leases)
  /-- An invocation is killed. -/
  | kill {s : Scene ι} (i : ι) {q : Request} {next : q.Answer → Dialogue Unit}
      (hrest : s.rest i = some (.ask q next)) : Step crew s (s.killed i)

/-- The scene when no invocation has begun. -/
def Crew.start (crew : Crew ι) (files : FileTree) : Scene ι where
  files
  rest i := some (crew.errand i).run

/-- Whether a scene can come about. -/
def Crew.Reaches (crew : Crew ι) (files : FileTree) : Scene ι → Prop :=
  Relation.ReflTransGen crew.Step (crew.start files)

/-- Whether an invocation is between taking and giving back the run lock. -/
def Scene.Holds (s : Scene ι) (i : ι) : Prop :=
  s.rest i ≠ none ∧ HasTaken (s.told i) ∧ ¬ HasReleased (s.told i)

/-! ### Orderly scenes -/

/-- The place of the run lock. -/
def Crew.lockPlace (crew : Crew ι) : Place := goal crew.cwd crew.lock

/-- Whether the configuration is spared by all but the runs themselves. -/
structure Crew.Safe (crew : Crew ι) (found : Option Node) : Prop where
  /-- Results spare it. -/
  spared : ∀ i, (crew.ground i).spared
  /-- The creation of the lock file spares it. -/
  path : goal crew.cwd crew.lock ≠ goal crew.cwd crew.config ∨ found ≠ none

omit [DecidableEq ι] in
theorem Crew.Safe.sound {crew : Crew ι} {found : Option Node} (h : crew.Safe found) (i : ι) :
  (crew.ground i).Sound found
  := ⟨h.spared i, h.path⟩

/-- Whether the tenures of all invocations agree with a scene, and the configuration with what was
found there at first. -/
structure Scene.Orderly (crew : Crew ι) (found : Option Node) (s : Scene ι) (ten : ι → Tenure) :
    Prop where
  /-- Each invocation goes on as its tenure demands. -/
  keeps : ∀ i x, s.rest i = some x → (crew.ground i).tenure.Keeps (ten i)
    (fun _ => Tenure.Ends (.ok ())) (fun e => Tenure.Ends (.error e)) x
  /-- Each has come to its tenure by its exchanges. -/
  told : ∀ i, (ten i).Told (crew.ground i) (s.told i)
  /-- Locks are held in tenures. -/
  leases : ∀ l ∈ s.leases, l.place = crew.lockPlace ∧ s.rest l.owner ≠ none
    ∧ ∃ kept site, ten l.owner = .inside l.lock kept site
  /-- Who is in its tenure holds the only lock, and sees the files. -/
  holder : ∀ i lock kept site, s.rest i ≠ none → ten i = .inside lock kept site →
    s.leases = [⟨i, lock, crew.lockPlace⟩]
      ∧ (crew.ground i).Stirs site.files s.files ∧ site.dirs = created (s.told i)
  /-- It has found the configuration as it was at first. -/
  kept : crew.Safe found → (∀ i, s.rest i ≠ none) → ∀ i lock kept site,
    ten i = .inside lock kept site → kept = found
  /-- Between tenures the configuration is as it was at first. -/
  idle : crew.Safe found → (∀ i, s.rest i ≠ none) →
    (∀ i lock kept site, ten i ≠ .inside lock kept site) →
    s.files.node? crew.cwd crew.config = found

variable {crew : Crew ι} {found : Option Node} {s : Scene ι} {ten : ι → Tenure} {i : ι}

omit [DecidableEq ι] in
theorem orderly_start (crew : Crew ι) (files : FileTree) :
  (crew.start files).Orderly crew (files.node? crew.cwd crew.config) fun _ => .before
  := by
  refine ⟨?_, ?_, nofun, nofun, nofun, ?_⟩
  · rintro i _ ⟨rfl⟩
    apply (crew.errand i).keeps_run (crew.lockFile_eq i) (crew.subjectConfig_eq i)
    · intro path hpath
      exact .inr (.inr hpath)
    · apply id
  · intro i e he
    cases he
  · intro _ _ _
    rfl

omit [DecidableEq ι] in
/-- No two invocations are in their tenures. -/
theorem Scene.Orderly.eq_of_inside (h : s.Orderly crew found ten) {j : ι} {lock lock' : Nat}
    {kept kept' : Option Node} {site site' : Site} (hi : s.rest i ≠ none)
    (hteni : ten i = .inside lock kept site) (hj : s.rest j ≠ none)
    (htenj : ten j = .inside lock' kept' site') :
  i = j
  := by
  have hleases := (h.holder i _ _ _ hi hteni).1
  rw [(h.holder j _ _ _ hj htenj).1, List.singleton_inj] at hleases
  cases hleases
  rfl

omit [DecidableEq ι] in
theorem Scene.Orderly.not_inside_of_ne (h : s.Orderly crew found ten) {lock : Nat}
    {kept : Option Node} {site : Site} (hi : s.rest i ≠ none)
    (hten : ten i = .inside lock kept site) :
  ∀ j ≠ i, s.rest j ≠ none → ∀ lock kept site, ten j ≠ .inside lock kept site
  := by
  intro j hne hj lock' kept' site' htenj
  apply hne (h.eq_of_inside hj htenj hi hten)

/-! ### One exchange -/

theorem Crew.leases_of_isLockFree {leases leases' : List (Lease ι)} {t : FileTree} {q : Request}
    {a : q.Answer} (hq : q.isLockFree = true) (h : crew.Grants i leases t ⟨q, a⟩ leases') :
  leases' = leases
  := by
  cases q <;> first | exact h | cases hq

theorem created_concat (es : List Exchange) (e : Exchange) :
  created (es ++ [e]) = Ground.dirsAfter (created es) e
  := by
  unfold created
  rw [List.foldl_append, List.foldl_cons, List.foldl_nil]

theorem created_eq_nil {es : List Exchange} (h : ∀ e ∈ es, e.request.isInert = true) :
  created es = []
  := by
  induction es using List.reverseRecOn with
  | nil => rfl
  | append_singleton es e ih =>
    rw [created_concat, ih fun e' he' => h e' (List.mem_append_left _ he')]
    have he := h e (List.mem_append_right _ (List.mem_singleton_self e))
    obtain ⟨q, a⟩ := e
    cases q <;> first | rfl | cases he

theorem told_answered_of_ne {j : ι} (hj : j ≠ i) {x : Dialogue Unit} {e : Exchange}
    {files : FileTree} {leases : List (Lease ι)} :
  (s.answered i x e files leases).told j = s.told j
  := Function.update_of_ne hj _ _

section

variable {q : Request} {next : q.Answer → Dialogue Unit} {a : q.Answer} {files : FileTree}
  {leases : List (Lease ι)} (h : s.Orderly crew found ten) (hrest : s.rest i = some (.ask q next))

include hrest

theorem rest_answered_ne_none {j : ι} :
  (s.answered i (next a) ⟨q, a⟩ files leases).rest j ≠ none ↔ s.rest j ≠ none
  := by
  unfold Scene.answered
  dsimp only
  by_cases hj : j = i
  · subst hj
    simp [hrest]
  · rw [Function.update_of_ne hj]

include h

/-- An invocation goes on as its new tenure demands, and all others as before. -/
theorem Scene.Orderly.keeps_answered {ten' : Tenure}
    (hturn : Tenure.Turn (crew.ground i) (ten i) ⟨q, a⟩ ten') :
  (∀ j x, (s.answered i (next a) ⟨q, a⟩ files leases).rest j = some x →
      (crew.ground j).tenure.Keeps (Function.update ten i ten' j)
        (fun _ => Tenure.Ends (.ok ())) (fun e => Tenure.Ends (.error e)) x)
    ∧ ∀ j, (Function.update ten i ten' j).Told (crew.ground j)
        ((s.answered i (next a) ⟨q, a⟩ files leases).told j)
  := by
  obtain ⟨hallows, hnext⟩ := h.keeps i _ hrest
  unfold Scene.answered
  dsimp only
  constructor
  · intro j x hx
    by_cases hj : j = i
    · subst hj
      rw [Function.update_self] at hx ⊢
      obtain rfl := Option.some.inj hx
      apply hnext a ten' hturn
    · rw [Function.update_of_ne hj] at hx ⊢
      apply h.keeps j x hx
  · intro j
    by_cases hj : j = i
    · subst hj
      rw [Function.update_self, Function.update_self]
      apply (h.told j).concat (e := ⟨q, a⟩) hallows hturn
    · rw [Function.update_of_ne hj, Function.update_of_ne hj]
      apply h.told j

/-- What is exchanged outside a tenure leaves a scene orderly. -/
theorem Scene.Orderly.outside {ten' : Tenure}
    (hturn : Tenure.Turn (crew.ground i) (ten i) ⟨q, a⟩ ten')
    (hold : ∀ lock kept site, ten i ≠ .inside lock kept site)
    (hnew : ∀ lock kept site, ten' ≠ .inside lock kept site)
    (hstirs : (crew.ground i).Stirs s.files files) :
  (s.answered i (next a) ⟨q, a⟩ files s.leases).Orderly crew found (Function.update ten i ten')
  := by
  have halive : ∀ j, (s.answered i (next a) ⟨q, a⟩ files s.leases).rest j ≠ none ↔
      s.rest j ≠ none := fun j => rest_answered_ne_none hrest
  have hinside : ∀ j lock kept site, Function.update ten i ten' j = .inside lock kept site →
      j ≠ i ∧ ten j = .inside lock kept site := by
    intro j lock kept site hten
    by_cases hj : j = i
    · subst hj
      rw [Function.update_self] at hten
      exact absurd hten (hnew lock kept site)
    · rw [Function.update_of_ne hj] at hten
      exact ⟨hj, hten⟩
  obtain ⟨hkeeps, htold⟩ := h.keeps_answered hrest hturn
  refine ⟨hkeeps, htold, ?_, ?_, ?_, ?_⟩
  · intro l hl
    obtain ⟨hplace, hlalive, kept, site, hten⟩ := h.leases l hl
    have hne : l.owner ≠ i := fun heq => hold _ _ _ (heq ▸ hten)
    use hplace, (halive _).2 hlalive, kept, site
    rw [Function.update_of_ne hne, hten]
  · intro j lock kept site hj hten
    obtain ⟨hne, hten⟩ := hinside j lock kept site hten
    obtain ⟨hleases, hsite, hdirs⟩ := h.holder j lock kept site ((halive j).1 hj) hten
    use hleases, hsite.trans hstirs
    rw [hdirs, told_answered_of_ne hne]
  · intro hsafe hall j lock kept site hten
    apply h.kept hsafe (fun j => (halive j).1 (hall j)) j lock kept site (hinside _ _ _ _ hten).2
  · intro hsafe hall hnone
    have hfound := h.idle hsafe (fun j => (halive j).1 (hall j)) fun j lock kept site hten => by
      by_cases hj : j = i
      · exact hold lock kept site (hj ▸ hten)
      · apply hnone j lock kept site
        rw [Function.update_of_ne hj, hten]
    apply (hstirs.node? (hfound.symm ▸ hsafe.path)).trans hfound

/-- What is exchanged in a tenure, or to begin or end one, leaves a scene orderly, as no other
invocation is in its tenure. -/
theorem Scene.Orderly.alone {ten' : Tenure}
    (hturn : Tenure.Turn (crew.ground i) (ten i) ⟨q, a⟩ ten')
    (hothers : ∀ j ≠ i, s.rest j ≠ none → ∀ lock kept site, ten j ≠ .inside lock kept site)
    (hleases : ∀ l ∈ leases, l.owner = i ∧ l.place = crew.lockPlace
      ∧ ∃ kept site, ten' = .inside l.lock kept site)
    (hholder : ∀ lock kept site, ten' = .inside lock kept site →
      leases = [⟨i, lock, crew.lockPlace⟩] ∧ (crew.ground i).Stirs site.files files
        ∧ site.dirs = created (s.told i ++ [⟨q, a⟩]))
    (hkept : crew.Safe found → (∀ i, s.rest i ≠ none) → ∀ lock kept site,
      ten' = .inside lock kept site → kept = found)
    (hidle : crew.Safe found → (∀ i, s.rest i ≠ none) →
      (∀ lock kept site, ten' ≠ .inside lock kept site) →
      files.node? crew.cwd crew.config = found) :
  (s.answered i (next a) ⟨q, a⟩ files leases).Orderly crew found (Function.update ten i ten')
  := by
  have halive : ∀ j, (s.answered i (next a) ⟨q, a⟩ files leases).rest j ≠ none ↔
      s.rest j ≠ none := fun j => rest_answered_ne_none hrest
  have hinside : ∀ j lock kept site, s.rest j ≠ none →
      Function.update ten i ten' j = .inside lock kept site →
      j = i ∧ ten' = .inside lock kept site := by
    intro j lock kept site hj hten
    by_cases heq : j = i
    · subst heq
      rw [Function.update_self] at hten
      exact ⟨rfl, hten⟩
    · rw [Function.update_of_ne heq] at hten
      exact absurd hten (hothers j heq hj lock kept site)
  obtain ⟨hkeeps, htold⟩ := h.keeps_answered hrest hturn
  refine ⟨hkeeps, htold, ?_, ?_, ?_, ?_⟩
  · intro l hl
    obtain ⟨rfl, hplace, kept, site, hten⟩ := hleases l hl
    use hplace, (halive _).2 (by rw [hrest]; nofun), kept, site
    rw [Function.update_self, hten]
  · intro j lock kept site hj hten
    obtain ⟨rfl, hnew⟩ := hinside j lock kept site ((halive j).1 hj) hten
    obtain ⟨hleases, hstirs, hdirs⟩ := hholder lock kept site hnew
    use hleases, hstirs
    rw [hdirs]
    unfold Scene.answered
    dsimp only
    rw [Function.update_self]
  · intro hsafe hall j lock kept site hten
    have hall' := fun j => (halive j).1 (hall j)
    apply hkept hsafe hall' lock kept site (hinside j _ _ _ (hall' j) hten).2
  · intro hsafe hall hnone
    apply hidle hsafe fun j => (halive j).1 (hall j)
    intro lock kept site hten
    apply hnone i lock kept site
    rw [Function.update_self, hten]

/-- An invocation goes on in its tenure. -/
theorem Scene.Orderly.work {lock : Nat} {kept : Option Node} {site : Site}
    (hten : ten i = .inside lock kept site) (hfree : q.isLockFree = true)
    (hfiles : (crew.ground i).Follows (created (s.told i)) s.files ⟨q, a⟩ files)
    (hleases : crew.Grants i s.leases s.files ⟨q, a⟩ leases) :
  ∃ ten', (s.answered i (next a) ⟨q, a⟩ files leases).Orderly crew found ten'
  := by
  have hi : s.rest i ≠ none := by
    rw [hrest]
    nofun
  obtain ⟨hheld, hstirs, hdirs⟩ := h.holder i lock kept site hi hten
  have hturn : Tenure.Turn (crew.ground i) (ten i) ⟨q, a⟩
      (.inside lock kept ⟨files, Ground.dirsAfter site.dirs ⟨q, a⟩⟩) := by
    rw [hten]
    exact .work hfree ⟨s.files, hstirs, hdirs ▸ hfiles, rfl⟩
  obtain rfl := Crew.leases_of_isLockFree hfree hleases
  use Function.update ten i (.inside lock kept ⟨files, Ground.dirsAfter site.dirs ⟨q, a⟩⟩)
  apply h.alone hrest hturn (h.not_inside_of_ne hi hten)
  · intro l hl
    rw [hheld] at hl
    obtain rfl := List.mem_singleton.1 hl
    exact ⟨rfl, rfl, _, _, rfl⟩
  · rintro _ _ _ ⟨rfl⟩
    use hheld, .inl rfl
    rw [created_concat, hdirs]
  · rintro hsafe hall _ _ _ ⟨rfl⟩
    apply h.kept hsafe hall i lock kept site hten
  · intro _ _ hnot
    exact absurd rfl (hnot _ _ _)

end

/-- An invocation that is refused the lock makes no more of the files than its file. -/
theorem Scene.Orderly.refuse {next : Except LockRefusal Nat → Dialogue Unit} {why : LockRefusal}
    {files : FileTree} {leases : List (Lease ι)} (h : s.Orderly crew found ten)
    (hrest : s.rest i = some (.ask (.takeLock crew.lock) next)) (hten : ten i = .before)
    (hfiles : (crew.ground i).Follows (created (s.told i)) s.files
      ⟨.takeLock crew.lock, .error why⟩ files)
    (hleases : crew.Grants i s.leases s.files ⟨.takeLock crew.lock, .error why⟩ leases) :
  ∃ ten', (s.answered i (next (.error why)) ⟨.takeLock crew.lock, .error why⟩ files
    leases).Orderly crew found ten'
  := by
  have hturn : Tenure.Turn (crew.ground i) (ten i) ⟨.takeLock crew.lock, .error why⟩ .refused := by
    rw [hten]
    exact .refuse _ why
  have hsame : leases = s.leases := by
    cases why with
    | held => apply hleases.2
    | notOpened why => apply hleases
    | failed why => apply hleases
  subst hsame
  use Function.update ten i .refused
  apply h.outside hrest hturn _ _ (Ground.stirs_of_takeLock hfiles)
  · rw [hten]
    nofun
  · nofun

/-- An invocation that is granted the lock is the only one in its tenure. -/
theorem Scene.Orderly.take {next : Except LockRefusal Nat → Dialogue Unit} {lock : Nat}
    {files : FileTree} {leases : List (Lease ι)} (h : s.Orderly crew found ten)
    (hrest : s.rest i = some (.ask (.takeLock crew.lock) next)) (hten : ten i = .before)
    (hfiles : (crew.ground i).Follows (created (s.told i)) s.files
      ⟨.takeLock crew.lock, .ok lock⟩ files)
    (hleases : crew.Grants i s.leases s.files ⟨.takeLock crew.lock, .ok lock⟩ leases) :
  ∃ ten', (s.answered i (next (.ok lock)) ⟨.takeLock crew.lock, .ok lock⟩ files
    leases).Orderly crew found ten'
  := by
  have hturn : Tenure.Turn (crew.ground i) (ten i) ⟨.takeLock crew.lock, .ok lock⟩
      (.inside lock (files.node? crew.cwd crew.config) { files }) := by
    rw [hten]
    exact .take _ lock files
  obtain ⟨p, hplace, hfree, rfl⟩ := hleases
  obtain rfl := goal_of_place hplace
  -- all locks are on the file of the run lock
  have hnone : s.leases = [] := by
    apply List.eq_nil_iff_forall_not_mem.2
    intro l hl
    apply hfree l hl (h.leases l hl).1
  have hout : ∀ j, s.rest j ≠ none → ∀ lock kept site, ten j ≠ .inside lock kept site := by
    intro j hj lock kept site htenj
    have hheld := (h.holder j lock kept site hj htenj).1
    rw [hnone] at hheld
    cases hheld
  have htold := h.told i
  rw [hten] at htold
  rw [hnone]
  use Function.update ten i (.inside lock (files.node? crew.cwd crew.config) { files })
  apply h.alone hrest hturn fun j _ => hout j
  · intro l hl
    obtain rfl := List.mem_singleton.1 hl
    exact ⟨rfl, rfl, _, _, rfl⟩
  · rintro _ _ _ ⟨rfl⟩
    use rfl, .inl rfl
    rw [created_concat, created_eq_nil htold]
    rfl
  · rintro hsafe hall _ _ _ ⟨rfl⟩
    have hfound := h.idle hsafe hall fun j => hout j (hall j)
    have hstirs : (crew.ground i).Stirs s.files files := Ground.stirs_of_takeLock hfiles
    apply (hstirs.node? (hfound.symm ▸ hsafe.path)).trans hfound
  · intro _ _ hnot
    exact absurd rfl (hnot _ _ _)

/-- An invocation that gives back the lock leaves the configuration as it found it. -/
theorem Scene.Orderly.release {lock : Nat} {next : Unit → Dialogue Unit} {kept : Option Node}
    {site : Site} {leases : List (Lease ι)} (h : s.Orderly crew found ten)
    (hrest : s.rest i = some (.ask (.releaseLock lock) next))
    (hten : ten i = .inside lock kept site) (hshows : site.Shows (crew.ground i) kept)
    (hleases : crew.Grants i s.leases s.files ⟨.releaseLock lock, ()⟩ leases) :
  ∃ ten', (s.answered i (next ()) ⟨.releaseLock lock, ()⟩ s.files leases).Orderly crew found ten'
  := by
  have hi : s.rest i ≠ none := by
    rw [hrest]
    nofun
  obtain ⟨hheld, hstirs, -⟩ := h.holder i lock kept site hi hten
  have hturn : Tenure.Turn (crew.ground i) (ten i) ⟨.releaseLock lock, ()⟩ .behind := by
    rw [hten]
    exact .release
  have hnone : leases = [] := by
    rw [show leases = _ from hleases, hheld]
    simp
  subst hnone
  use Function.update ten i .behind
  apply h.alone hrest hturn (h.not_inside_of_ne hi hten)
  · nofun
  · nofun
  · nofun
  · intro hsafe hall _
    obtain rfl := h.kept hsafe hall i lock kept site hten
    have hfound := hshows (hsafe.sound i)
    apply (hstirs.node? (hfound.symm ▸ hsafe.path)).trans hfound

/-- Every exchange leaves a scene orderly. -/
theorem Scene.Orderly.answer {q : Request} {next : q.Answer → Dialogue Unit} {a : q.Answer}
    {files : FileTree} {leases : List (Lease ι)} (h : s.Orderly crew found ten)
    (hrest : s.rest i = some (.ask q next))
    (hfiles : (crew.ground i).Follows (created (s.told i)) s.files ⟨q, a⟩ files)
    (hleases : crew.Grants i s.leases s.files ⟨q, a⟩ leases) :
  ∃ ten', (s.answered i (next a) ⟨q, a⟩ files leases).Orderly crew found ten'
  := by
  obtain ⟨hallows, -⟩ := h.keeps i _ hrest
  -- what is inert changes nothing, before a tenure or behind one
  have hinert : q.isInert = true → files = s.files ∧ leases = s.leases := by
    intro hq
    use (Ground.follows_of_isInert hq hfiles).1
    apply Crew.leases_of_isLockFree (Request.isLockFree_of_isInert hq) hleases
  cases hten : ten i with
  | before =>
    rw [hten] at hallows
    rcases hallows with hq | hlock
    · have hturn : Tenure.Turn (crew.ground i) (ten i) ⟨q, a⟩ .before := by
        rw [hten]
        exact .wait hq
      obtain ⟨rfl, rfl⟩ := hinert hq
      use Function.update ten i .before
      apply h.outside hrest hturn _ _ (.inl rfl)
      · rw [hten]
        nofun
      · nofun
    · subst hlock
      cases a with
      | error why => apply h.refuse hrest hten hfiles hleases
      | ok lock => apply h.take hrest hten hfiles hleases
  | refused =>
    rw [hten] at hallows
    cases hallows
  | inside lock kept site =>
    rw [hten] at hallows
    rcases hallows with hfree | ⟨hlock, hshows⟩
    · apply h.work hrest hten hfree hfiles hleases
    · subst hlock
      obtain rfl : files = s.files := hfiles
      apply h.release hrest hten hshows hleases
  | behind =>
    rw [hten] at hallows
    have hturn : Tenure.Turn (crew.ground i) (ten i) ⟨q, a⟩ .behind := by
      rw [hten]
      exact .leave hallows
    obtain ⟨rfl, rfl⟩ := hinert hallows
    use Function.update ten i .behind
    apply h.outside hrest hturn _ _ (.inl rfl)
    · rw [hten]
      nofun
    · nofun

/-- The end of a process leaves a scene orderly, its locks being gone. -/
theorem Scene.Orderly.kill (h : s.Orderly crew found ten) (i : ι) :
  (s.killed i).Orderly crew found ten
  := by
  have halive : ∀ {j}, (s.killed i).rest j ≠ none → j ≠ i ∧ s.rest j ≠ none := by
    intro j hj
    unfold Scene.killed at hj
    dsimp only at hj
    by_cases heq : j = i
    · rw [heq, Function.update_self] at hj
      exact absurd rfl hj
    · rw [Function.update_of_ne heq] at hj
      exact ⟨heq, hj⟩
  have hnot : ¬ ∀ j, (s.killed i).rest j ≠ none := fun hall => (halive (hall i)).1 rfl
  refine ⟨?_, h.told, ?_, ?_, fun _ hall => absurd hall hnot, fun _ hall => absurd hall hnot⟩
  · intro j x hx
    have hne := (halive (by rw [hx]; nofun)).1
    unfold Scene.killed at hx
    dsimp only at hx
    rw [Function.update_of_ne hne] at hx
    apply h.keeps j x hx
  · intro l hl
    obtain ⟨hl, hne⟩ := List.mem_filter.1 hl
    obtain ⟨hplace, hlalive, hinside⟩ := h.leases l hl
    have hne : l.owner ≠ i := by simpa using hne
    refine ⟨hplace, ?_, hinside⟩
    unfold Scene.killed
    dsimp only
    rw [Function.update_of_ne hne]
    apply hlalive
  · intro j lock kept site hj hten
    obtain ⟨hne, hj⟩ := halive hj
    obtain ⟨hleases, hsite⟩ := h.holder j lock kept site hj hten
    refine ⟨?_, hsite⟩
    unfold Scene.killed
    rw [hleases]
    simp [hne]

/-- Whatever comes about is orderly. -/
theorem exists_orderly {files : FileTree} (h : crew.Reaches files s) :
  ∃ ten, s.Orderly crew (files.node? crew.cwd crew.config) ten
  := by
  induction h with
  | refl => exact ⟨_, orderly_start crew files⟩
  | tail _ hstep ih =>
    obtain ⟨ten, hs⟩ := ih
    cases hstep with
    | answer i a hrest hfiles hleases => apply hs.answer hrest hfiles hleases
    | kill i hrest => exact ⟨ten, hs.kill i⟩

/-! ### What a transcript tells of a tenure -/

theorem Tenure.Told.exists_eq_inside {g : Ground} {o : Tenure} {es : List Exchange}
    (h : o.Told g es) (htaken : HasTaken es) (hreleased : ¬ HasReleased es) :
  ∃ lock kept site, o = .inside lock kept site
  := by
  cases o with
  | before =>
    obtain ⟨path, lock, hmem⟩ := htaken
    cases h _ hmem
  | refused =>
    obtain ⟨pre, why, rfl, hpre⟩ := h
    obtain ⟨path, lock, hmem⟩ := htaken
    rcases List.mem_append.1 hmem with hmem | hmem
    · cases hpre _ hmem
    · cases List.mem_singleton.1 hmem
  | inside lock kept site => exact ⟨lock, kept, site, rfl⟩
  | behind => exact absurd h.2.1 hreleased

theorem Tenure.Told.eq_refused {g : Ground} {o : Tenure} {es : List Exchange}
    (h : o.Told g es) (hrefused : WasRefused es) :
  o = .refused
  := by
  cases o with
  | before =>
    obtain ⟨path, why, hmem⟩ := hrefused
    cases h _ hmem
  | refused => rfl
  | inside lock kept site => exact absurd hrefused h.2.2.1
  | behind => exact absurd hrefused h.2.2.1

theorem Tenure.Told.sheltered {g : Ground} {o : Tenure} {es : List Exchange} (h : o.Told g es) :
  Sheltered es
  := by
  cases o with
  | before => apply sheltered_of_forall h
  | refused =>
    obtain ⟨pre, why, rfl, hpre⟩ := h
    apply (sheltered_of_forall hpre).concat
    right
    left
    use g.lock
  | inside lock kept site => apply h.2.2.2
  | behind => apply h.2.2.2

/-- An exchange that is inert or the refusal of the lock touches no other file than that of the
lock. -/
theorem Ground.node?_of_refused {g : Ground} {dirs : List Text} {t t' : FileTree} {e : Exchange}
    {path : Text} {why : LockRefusal}
    (he : e.request.isInert = true ∨ e = ⟨.takeLock g.lock, .error why⟩)
    (hfollows : g.Follows dirs t e t')
    (hpath : goal g.cwd g.lock ≠ goal g.cwd path ∨ t.node? g.cwd path ≠ none) :
  t'.node? g.cwd path = t.node? g.cwd path
  := by
  rcases he with he | rfl
  · rw [(Ground.follows_of_isInert he hfollows).1]
  · rcases Ground.stirs_of_takeLock hfollows with rfl | ⟨p, hopen⟩
    · rfl
    · apply node?_of_openFile hopen hpath

theorem Crew.Reaches.answer {files : FileTree} (h : crew.Reaches files s) (i : ι) {q : Request}
    {next : q.Answer → Dialogue Unit} (hrest : s.rest i = some (.ask q next)) (a : q.Answer)
    (files' : FileTree) (leases : List (Lease ι))
    (hfiles : (crew.ground i).Follows (created (s.told i)) s.files ⟨q, a⟩ files')
    (hleases : crew.Grants i s.leases s.files ⟨q, a⟩ leases) :
  crew.Reaches files (s.answered i (next a) ⟨q, a⟩ files' leases)
  := Relation.ReflTransGen.tail h (.answer i a hrest hfiles hleases)

/-! ### Mutual exclusion -/

/-- At most one invocation holds the run lock, and each does what it does while it holds it; one
that is refused the lock ends with a setup error and touches no file but that of the lock; and when
all have ended without being killed, the configuration is as it was at first, unless it was missing
and has the place of the lock file or that of what a dual gate publishes. -/
theorem Crew.excludes {files : FileTree} (h : crew.Reaches files s) :
  (∀ i j, s.Holds i → s.Holds j → i = j)
    ∧ (∀ i, Sheltered (s.told i))
    ∧ (∀ i, WasRefused (s.told i) →
      (∀ e ∈ s.told i, e.request.isInert = true ∨ e.request = .takeLock crew.lock)
        ∧ (∀ e ∈ s.told i, ∀ dirs t t' path, (crew.ground i).Follows dirs t e t' →
          goal crew.cwd crew.lock ≠ goal crew.cwd path ∨ t.node? crew.cwd path ≠ none →
          t'.node? crew.cwd path = t.node? crew.cwd path)
        ∧ ∀ x, s.rest i = some x → ∃ cause, x = .ended (.error (.gate cause)) ∧ cause.kind = .setup)
    ∧ ((∀ i, ∃ result, s.rest i = some (.ended result)) →
      (∀ i path, (crew.errand i).Publishes path → goal crew.cwd crew.config ≠ goal crew.cwd path) →
      goal crew.cwd crew.lock ≠ goal crew.cwd crew.config
        ∨ files.has crew.cwd crew.config = true →
      s.files.node? crew.cwd crew.config = files.node? crew.cwd crew.config)
  := by
  obtain ⟨ten, hs⟩ := exists_orderly h
  refine ⟨?_, fun i => (hs.told i).sheltered, ?_, ?_⟩
  · rintro i j ⟨hi, htaken, hreleased⟩ ⟨hj, htaken', hreleased'⟩
    obtain ⟨_, _, _, hteni⟩ := (hs.told i).exists_eq_inside htaken hreleased
    obtain ⟨_, _, _, htenj⟩ := (hs.told j).exists_eq_inside htaken' hreleased'
    apply hs.eq_of_inside hi hteni hj htenj
  · intro i hrefused
    have hten := (hs.told i).eq_refused hrefused
    have htold := hs.told i
    rw [hten] at htold
    obtain ⟨pre, why, htold, hpre⟩ := htold
    have hkind : ∀ e ∈ s.told i,
        e.request.isInert = true ∨ e = ⟨.takeLock crew.lock, .error why⟩ := by
      intro e he
      rw [htold] at he
      rcases List.mem_append.1 he with he | he
      · left
        apply hpre e he
      · right
        apply List.mem_singleton.1 he
    refine ⟨?_, ?_, ?_⟩
    · intro e he
      rcases hkind e he with hinert | rfl
      · left
        apply hinert
      · right
        rfl
    · intro e he dirs t t' path hfollows hpath
      apply Ground.node?_of_refused (hkind e he) hfollows hpath
    · intro x hx
      have hkeeps := hs.keeps i x hx
      rw [hten] at hkeeps
      cases x with
      | ask q next => cases hkeeps.1
      | ended result =>
        cases result with
        | ok _ => cases hkeeps
        | error e =>
          rcases hkeeps with hkeeps | hkeeps | ⟨-, cause, rfl, hkind⟩
          · cases hkeeps
          · cases hkeeps
          · use cause
  · intro hended hspared hpath
    have hsafe : crew.Safe (files.node? crew.cwd crew.config) := by
      refine ⟨hspared, hpath.imp_right ?_⟩
      intro hthere
      rw [has_eq_isSome, Option.isSome_iff_ne_none] at hthere
      apply hthere
    apply hs.idle hsafe
    · intro i
      obtain ⟨result, hresult⟩ := hended i
      rw [hresult]
      nofun
    · intro i lock kept site hten
      obtain ⟨result, hresult⟩ := hended i
      have hkeeps := hs.keeps i _ hresult
      rw [hten] at hkeeps
      cases result with
      | ok _ => cases hkeeps
      | error e =>
        rcases hkeeps with hkeeps | hkeeps | ⟨hkeeps, -⟩
        · cases hkeeps
        · cases hkeeps
        · cases hkeeps

end

/-! ### Two invocations -/

/-- Two gates in a working directory. -/
def smallCrew : Crew Bool where
  cwd := ["w".toList]
  lock := "lock".toList
  config := "config.yaml".toList
  errand _ := .task (.gate { lockFile := "lock".toList })
  lockFile_eq _ := rfl
  subjectConfig_eq _ := rfl

/-- One of two gates takes the lock, the other one is refused it, and the first one looks for its
programs in vain. -/
theorem exists_reaches_smallCrew :
  ∃ s, smallCrew.Reaches smallTree s ∧ WasRefused (s.told false)
    ∧ ∀ i, ∃ result, s.rest i = some (.ended result)
  := by
  have h₀ : smallCrew.Reaches smallTree (smallCrew.start smallTree) := .refl
  have h₁ := h₀.answer true rfl (Except.ok 0) smallTree.locked
    [⟨true, 0, ["w".toList, "lock".toList]⟩] ⟨_, rfl⟩ ⟨_, rfl, nofun, rfl⟩
  have h₂ := h₁.answer false rfl (Except.error .held) smallTree.locked
    [⟨true, 0, ["w".toList, "lock".toList]⟩] ⟨_, rfl⟩ ⟨⟨_, List.mem_cons_self, rfl⟩, rfl⟩
  have h₃ := h₂.answer true rfl () _ _ rfl rfl
  have h₄ := h₃.answer true rfl [] _ _ rfl rfl
  have h₅ := h₄.answer true rfl false _ _ rfl rfl
  have h₆ := h₅.answer true rfl () smallTree.locked [] rfl rfl
  refine ⟨_, h₆, ⟨_, _, List.mem_singleton_self _⟩, ?_⟩
  intro i
  cases i with
  | false => exact ⟨_, rfl⟩
  | true => exact ⟨_, rfl⟩

/-- The one that is refused the lock fails, and the configuration is as before. -/
theorem Crew.excludes_smallCrew :
  ∃ s, smallCrew.Reaches smallTree s
    ∧ (∃ cause, s.rest false = some (.ended (.error (.gate cause))) ∧ cause.kind = .setup)
    ∧ s.files.node? ["w".toList] "config.yaml".toList =
      smallTree.node? ["w".toList] "config.yaml".toList
  := by
  obtain ⟨s, hs, hwas, hended⟩ := exists_reaches_smallCrew
  obtain ⟨-, -, hrefused, hconfig⟩ := Crew.excludes hs
  obtain ⟨result, hresult⟩ := hended false
  obtain ⟨cause, hcause, hkind⟩ := (hrefused false hwas).2.2 _ hresult
  rw [hcause] at hresult
  refine ⟨s, hs, ⟨cause, hresult, hkind⟩, ?_⟩
  apply hconfig hended
  · rintro _ _ ⟨⟩
  · right
    rfl

/-- A gate that locks its configuration. -/
def selfLockedCrew : Crew Unit where
  cwd := []
  lock := "config.yaml".toList
  config := "config.yaml".toList
  errand _ := .task selfLocked
  lockFile_eq _ := rfl
  subjectConfig_eq _ := rfl

/-- An invocation that is refused the lock creates a missing configuration that has its place. -/
theorem Crew.config_created_by_refused :
  ¬ ∀ (crew : Crew Unit) (files : FileTree) (s : Scene Unit), crew.Reaches files s →
    WasRefused (s.told ()) →
    s.files.node? crew.cwd crew.config = files.node? crew.cwd crew.config
  := by
  intro hall
  have h₀ : selfLockedCrew.Reaches {} (selfLockedCrew.start {}) := .refl
  have h₁ := h₀.answer () rfl (Except.error (.failed .noLocks))
    { nodes := [(["config.yaml".toList], .file [] 420)] } [] ⟨_, rfl⟩ rfl
  have hsame := hall _ _ _ h₁ ⟨_, _, List.mem_singleton_self _⟩
  have hnow : (FileTree.mk [(["config.yaml".toList], .file [] 420)]).node? selfLockedCrew.cwd
      selfLockedCrew.config = some (.file [] 420) := rfl
  have hbefore : (FileTree.mk []).node? selfLockedCrew.cwd selfLockedCrew.config = none := rfl
  cases hnow.symm.trans (hsame.trans hbefore)

end Live

end PerfGate
