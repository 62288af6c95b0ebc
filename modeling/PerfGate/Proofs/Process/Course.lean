import PerfGate.Proofs.Process.Group

/-!
# Courses of owners

Owners in some places are looked at, waited for, ended, moved from place to place and destroyed, in
any order.  Behind the last owner of a group the group was killed, and nothing of it is left, if and
only if its leader was not reaped by a look or a wait (`Owner.killed_iff_of_course`).
-/

namespace PerfGate

namespace Owner

open PerfGate.Group Protocol

variable {ι : Type} [DecidableEq ι]

/-! ### Moves -/

/-- What is done with owners in some places. -/
inductive Move (ι : Type) where
  /-- A look whether the child runs. -/
  | look (i : ι)
  /-- A wait for the end of the child. -/
  | wait (i : ι) (timeoutMs : Int)
  /-- The end of the child. -/
  | terminate (i : ι) (grace : Int)
  /-- The child is handed to another owner, or to a new one. -/
  | hand (source target : ι)
  /-- The end of the owner. -/
  | destroy (i : ι)

namespace Move

/-- The owners behind a move.  An interrupted wait leaves its owner as it is. -/
def perform (owners : ι → Owner) : Move ι → Dialogue (ι → Owner)
  | look i => do
    let (_, o) ← (owners i).running
    pure (Function.update owners i o)
  | wait i timeoutMs => do
    let o ← try Prod.snd <$> (owners i).awaitEnd timeoutMs catch _ => pure (owners i)
    pure (Function.update owners i o)
  | terminate i grace => do
    let o ← (owners i).terminate grace
    pure (Function.update owners i o)
  | hand source target =>
    if source = target then pure owners
    else do
      let (left, taken) ← (owners source).moveTo (owners target)
      pure (Function.update (Function.update owners source left) target taken)
  | destroy i => do
    let _ ← (owners i).terminate
    pure (Function.update owners i {})

/-- Whether a move only asks for the state of the child. -/
def isLook : Move ι → Bool
  | look _ => true
  | wait _ _ => true
  | _ => false

/-- The places that a move is about. -/
def places : Move ι → List ι
  | look i => [i]
  | wait i _ => [i]
  | terminate i _ => [i]
  | hand source target => if source = target then [] else [source, target]
  | destroy i => [i]

end Move

variable {g : Pid} {s s' : Group} {owners owners' : ι → Owner} {bad : Failure → Group → Prop}

/-- An owner that does not hold a group takes the place of another such owner. -/
theorem child_update_iff {i : ι} {o : Owner} (hi : (owners i).child ≠ some g)
    (ho : o.child ≠ some g) (j : ι) :
  (Function.update owners i o j).child = some g ↔ (owners j).child = some g
  := by
  by_cases hj : j = i
  · subst hj
    rw [Function.update_self]
    exact iff_of_false ho hi
  · rw [Function.update_of_ne hj]

omit [DecidableEq ι] in
/-- What takes the child of another owner ends its own first. -/
theorem keeps_moveTo {mid : Owner → Group → Prop} {I : Group → Prop} {source target : Owner}
    (h : (protocol g).Keeps s mid bad target.terminate) (hI : ∀ o s', mid o s' → I s') :
  (protocol g).Keeps s (fun r s' => r = ({ source with child := none }, source) ∧ I s') bad
    (source.moveTo target)
  := h.bind fun o s' hs' => ⟨rfl, hI o s' hs'⟩

/-- A move of owners that do not hold a group leaves the group as it is. -/
theorem keeps_perform_of_ne {I : Group → Prop} (hI : (protocol g).Bears (IsForeign g) I)
    (hs : I s) (mv : Move ι) (hmv : ∀ i ∈ mv.places, (owners i).child ≠ some g) :
  (protocol g).Keeps s
    (fun owners' s' => (∀ j, (owners' j).child = some g ↔ (owners j).child = some g) ∧ I s') bad
    (mv.perform owners)
  := by
  cases mv with
  | look i =>
    have hi := hmv i (List.mem_singleton_self i)
    apply (keeps_running_of_ne hI hs hi).bind
    rintro r s' ⟨ho, hs'⟩
    use child_update_iff hi ho
  | wait i timeoutMs =>
    have hi := hmv i (List.mem_singleton_self i)
    have hwait : (protocol g).Keeps s (fun o' s' => o'.child ≠ some g ∧ I s') bad
        (tryCatch (Prod.snd <$> (owners i).awaitEnd timeoutMs) fun _ => pure (owners i)) := by
      apply (keeps_waitLoop_of_ne hI hs hi _).map.tryCatch
      intro e s' hs'
      exact ⟨hi, hs'⟩
    apply hwait.bind
    rintro o s' ⟨ho, hs'⟩
    use child_update_iff hi ho
  | terminate i grace =>
    have hi := hmv i (List.mem_singleton_self i)
    apply (keeps_terminate_of_ne hI hs hi grace).bind
    rintro o s' ⟨ho, hs'⟩
    use child_update_iff hi ho
  | hand source target =>
    rw [Move.perform]
    by_cases hsame : source = target
    · rw [if_pos hsame]
      exact ⟨fun _ => Iff.rfl, hs⟩
    · rw [Move.places, if_neg hsame] at hmv
      have hsource := hmv source (by simp)
      have htarget := hmv target (by simp)
      rw [if_neg hsame]
      apply (keeps_moveTo (keeps_terminate_of_ne hI hs htarget _) fun _ _ h => h.2).bind
      rintro _ s' ⟨rfl, hs'⟩
      refine ⟨?_, hs'⟩
      intro j
      have hleft : ({ owners source with child := none } : Owner).child ≠ some g := nofun
      have htarget' : (Function.update owners source { owners source with child := none }
          target).child ≠ some g := by
        rw [Function.update_of_ne (Ne.symm hsame)]
        apply htarget
      rw [child_update_iff htarget' hsource, child_update_iff hsource hleft]
  | destroy i =>
    have hi := hmv i (List.mem_singleton_self i)
    apply (keeps_terminate_of_ne hI hs hi _).bind
    rintro o s' ⟨ho, hs'⟩
    use child_update_iff hi nofun

/-! ### Who holds a group -/

/-- What has become of a group, and who holds it; `looked` is whether a look or a wait reaped its
leader. -/
inductive Standing (g : Pid) (owners : ι → Owner) (s : Group) : (looked : Bool) → Prop
  /-- One owner holds it. -/
  | held {i : ι} (only : ∀ j, (owners j).child = some g ↔ j = i) (is : s.IsHeld) :
      Standing g owners s false
  /-- It was forgotten. -/
  | lost (nobody : ∀ j, (owners j).child ≠ some g) (is : s.IsLost) : Standing g owners s true
  /-- It was ended. -/
  | ended (nobody : ∀ j, (owners j).child ≠ some g) (is : s.IsOver) : Standing g owners s false

/-- What a look at the leader makes of a group that is held. -/
theorem Seen.standing {i : ι} (only : ∀ j, (owners j).child = some g ↔ j = i) {o : Owner}
    (h : Seen g o s) :
  Standing g (Function.update owners i o) s s.reaped
  := by
  have hothers : ∀ j, j ≠ i → (owners j).child ≠ some g := fun j hj hchild => hj ((only j).1 hchild)
  rcases h with ⟨ho, hs⟩ | ⟨ho, hs⟩
  · rw [hs.1]
    apply Standing.held (i := i) _ hs
    intro j
    by_cases hj : j = i
    · simp [hj, ho]
    · simp [hj, hothers j hj]
  · rw [hs.1]
    apply Standing.lost _ hs
    intro j
    by_cases hj : j = i
    · simp [hj, ho]
    · simp [hj, hothers j hj]

/-- An owner that ended its group takes the place of the one that held it. -/
theorem standing_ended {i : ι} (only : ∀ j, (owners j).child = some g ↔ j = i) {o : Owner}
    (ho : o.child = none) (hs : s.IsOver) :
  Standing g (Function.update owners i o) s false
  := by
  apply Standing.ended _ hs
  intro j
  by_cases hj : j = i
  · simp [hj, ho]
  · have hchild : (owners j).child ≠ some g := fun hchild => hj ((only j).1 hchild)
    simp [hj, hchild]

/-- A move about the owner of a group. -/
theorem keeps_perform_of_held {i : ι} (only : ∀ j, (owners j).child = some g ↔ j = i)
    (hs : s.IsHeld) (mv : Move ι) (hmv : i ∈ mv.places) :
  (protocol g).Keeps s
    (fun owners' s' => Standing g owners' s' (mv.isLook && s'.reaped)) bad (mv.perform owners)
  := by
  have hi : (owners i).child = some g := (only i).2 rfl
  have hothers : ∀ j, j ≠ i → (owners j).child ≠ some g := fun j hj hchild => hj ((only j).1 hchild)
  cases mv with
  | look j =>
    obtain rfl := List.mem_singleton.1 hmv
    apply (keeps_running hs hi).bind
    intro r s' hseen
    apply hseen.standing only
  | wait j timeoutMs =>
    obtain rfl := List.mem_singleton.1 hmv
    have hwait : (protocol g).Keeps s (Seen g) bad
        (tryCatch (Prod.snd <$> (owners i).awaitEnd timeoutMs) fun _ => pure (owners i)) := by
      apply (keeps_waitLoop hs hi _).map.tryCatch
      intro e s' hs'
      exact .inl ⟨hi, hs'⟩
    apply hwait.bind
    intro o s' hseen
    apply hseen.standing only
  | terminate j grace =>
    obtain rfl := List.mem_singleton.1 hmv
    apply (keeps_terminate hs hi grace).bind
    rintro o s' ⟨ho, hs'⟩
    apply standing_ended only ho hs'
  | hand source target =>
    rw [Move.perform]
    by_cases hsame : source = target
    · rw [Move.places, if_pos hsame] at hmv
      cases hmv
    · rw [Move.places, if_neg hsame, List.mem_cons, List.mem_singleton] at hmv
      rw [if_neg hsame]
      rcases hmv with rfl | rfl
      · -- the group goes on to the other owner
        have htarget := hothers target (Ne.symm hsame)
        have hforeign := bears_foreign (bears_isHeld g)
        apply (keeps_moveTo (keeps_terminate_of_ne hforeign hs htarget _) fun _ _ h => h.2).bind
        rintro _ s' ⟨rfl, hs'⟩
        apply Standing.held (i := target) _ hs'
        intro j
        by_cases hj : j = target
        · simp [hj, hi]
        · rw [Function.update_of_ne hj]
          apply iff_of_false _ hj
          by_cases hj' : j = i
          · simp [hj']
          · rw [Function.update_of_ne hj']
            apply hothers j hj'
      · -- the owner of the group takes another child, and ends the group first
        have hsource := hothers source hsame
        apply (keeps_moveTo (keeps_terminate hs hi _) fun _ _ h => h.2).bind
        rintro _ s' ⟨rfl, hs'⟩
        apply Standing.ended _ hs'
        intro j
        by_cases hj : j = i
        · simp [hj, hsource]
        · rw [Function.update_of_ne hj]
          by_cases hj' : j = source
          · simp [hj']
          · rw [Function.update_of_ne hj']
            apply hothers j hj
  | destroy j =>
    obtain rfl := List.mem_singleton.1 hmv
    apply (keeps_terminate hs hi graceMs).bind
    rintro o s' ⟨ho, hs'⟩
    apply standing_ended only rfl hs'

omit [DecidableEq ι] in
theorem Standing.of_iff {looked : Bool} (h : Standing g owners s looked)
    (hiff : ∀ j, (owners' j).child = some g ↔ (owners j).child = some g) :
  Standing g owners' s looked
  := by
  cases h with
  | held only hs => exact .held (fun j => (hiff j).trans (only j)) hs
  | lost nobody hs => exact .lost (fun j hj => nobody j ((hiff j).1 hj)) hs
  | ended nobody hs => exact .ended (fun j hj => nobody j ((hiff j).1 hj)) hs

/-- What a move makes of a group. -/
theorem keeps_perform {looked : Bool} (h : Standing g owners s looked) (mv : Move ι) :
  (protocol g).Keeps s
    (fun owners' s' => Standing g owners' s' (looked || mv.isLook && (!s.reaped && s'.reaped))) bad
    (mv.perform owners)
  := by
  cases h with
  | @held i only hs =>
    rw [hs.1]
    by_cases hmv : i ∈ mv.places
    · apply (keeps_perform_of_held only hs mv hmv).mono
      · intro owners' s' h
        simpa using h
      · intro e s' h
        apply h
    · have hothers : ∀ j ∈ mv.places, (owners j).child ≠ some g := by
        intro j hj hchild
        obtain rfl := (only j).1 hchild
        exact hmv hj
      apply (keeps_perform_of_ne (bears_foreign (bears_isHeld g)) hs mv hothers).mono
      · rintro owners' s' ⟨hiff, hs'⟩
        rw [hs'.1, Bool.and_false, Bool.and_false]
        apply (Standing.held only hs').of_iff hiff
      · intro e s' h
        apply h
  | lost nobody hs =>
    simp only [Bool.true_or]
    apply (keeps_perform_of_ne (bears_isLost g) hs mv fun j _ => nobody j).mono
    · rintro owners' s' ⟨hiff, hs'⟩
      apply (Standing.lost nobody hs').of_iff hiff
    · intro e s' h
      apply h
  | ended nobody hs =>
    simp only [hs.1, Bool.not_true, Bool.false_and, Bool.and_false, Bool.or_false]
    apply (keeps_perform_of_ne (bears_foreign (bears_isOver g)) hs mv fun j _ => nobody j).mono
    · rintro owners' s' ⟨hiff, hs'⟩
      apply (Standing.ended nobody hs').of_iff hiff
    · intro e s' h
      apply h

/-! ### Courses -/

/-- Moves one behind the other, each with what it asked and was answered, and the owners and a
group in front of them and behind. -/
inductive Course (g : Pid) :
    (ι → Owner) → Group → List (Move ι × List Exchange) → (ι → Owner) → Group → Prop
  | done (owners : ι → Owner) (s : Group) : Course g owners s [] owners s
  | move {owners owners' owners'' : ι → Owner} {s s' s'' : Group} {mv : Move ι}
      {es : List Exchange} {steps : List (Move ι × List Exchange)}
      (runs : (mv.perform owners).Runs es (.ok owners')) (passes : (protocol g).Passes s es s')
      (rest : Course g owners' s' steps owners'' s'') :
      Course g owners s ((mv, es) :: steps) owners'' s''

/-- Whether a look or a wait was told that the leader of a group has ended. -/
def forgets (g : Pid) (step : Move ι × List Exchange) : Bool :=
  step.1.isLook && step.2.any (·.reaps g)

/-- A leader is reaped once at most, and was reaped if an exchange said so. -/
theorem any_reaps_of_observes {es : List Exchange} (h : (protocol g).Observes s es s') :
  (s.reaped = true → s'.reaped = true) ∧ es.any (·.reaps g) = (!s.reaped && s'.reaped)
  := by
  induction h with
  | nil s => cases hs : s.reaped <;> simp
  | @cons s s₁ s' e es allowed first rest ih =>
    have hreaps : s.reaped = true → e.reaps g = false := by
      intro hs
      obtain ⟨hreap, hawait⟩ := allowed hs
      apply reaps_eq_false hreap hawait
    have hreaped := first.reaped_eq
    rw [List.any_cons, ih.2, hreaped]
    cases hs : s.reaped with
    | true =>
      have hs' := ih.1 (by rw [hreaped, hs, Bool.true_or])
      simp [hreaps hs, hs']
    | false =>
      cases he : e.reaps g with
      | true => simp [ih.1 (by rw [hreaped, hs, he, Bool.false_or])]
      | false => simp

theorem standing_of_course {looked : Bool} (h : Standing g owners s looked)
    {steps : List (Move ι × List Exchange)} (hcourse : Course g owners s steps owners' s') :
  Standing g owners' s' (looked || steps.any (forgets g))
  := by
  induction hcourse generalizing looked with
  | done owners s => simpa using h
  | @move owners _ _ s _ _ mv _ _ runs passes rest ih =>
    have hkeeps : (protocol g).Keeps s _ (fun _ _ => True) (mv.perform owners) := keeps_perform h mv
    obtain ⟨hobserves, hstanding⟩ := hkeeps.observes runs passes
    rw [List.any_cons, ← Bool.or_assoc]
    apply ih
    rw [forgets, (any_reaps_of_observes hobserves).2]
    apply hstanding

/-- The end of a group whose owners are gone.  Its leader was reaped.  The group was killed at that
moment or later, and then nothing of it runs, if and only if no look and no wait reaped the
leader. -/
theorem killed_iff_of_course {i : ι} (only : ∀ j, (owners j).child = some g ↔ j = i)
    (hs : s.IsHeld) {steps : List (Move ι × List Exchange)}
    (hcourse : Course g owners s steps owners' s') (nobody : ∀ j, (owners' j).child ≠ some g) :
  s'.reaped = true
    ∧ (s'.killed = true ↔ ∀ step ∈ steps, ¬ forgets g step = true)
    ∧ (s'.killed = true → s'.inhabited = false)
  := by
  have hstanding := standing_of_course (.held only hs) hcourse
  rw [Bool.false_or] at hstanding
  rw [← List.any_eq_false]
  cases hlooked : steps.any (forgets g) with
  | true =>
    rw [hlooked] at hstanding
    cases hstanding with
    | lost _ hlost => simp [hlost.1, hlost.2]
  | false =>
    rw [hlooked] at hstanding
    cases hstanding with
    | held only' _ => exact absurd ((only' _).2 rfl) (nobody _)
    | ended _ hover => simp [hover.1, hover.2.1, hover.2.2]

/-! ### Two courses -/

/-- The owner of group 7, in its only place. -/
def lone : Unit → Owner := fun _ => { child := some 7 }

/-- What the end of that owner asks and is told, where the leader has ended already. -/
def loneEnd : List Exchange :=
  [⟨.signalGroup 7 Signal.terminate, ()⟩, ⟨.reap 7, Reaped.ended 0⟩,
    ⟨.signalGroup 7 Signal.kill, ()⟩]

theorem killed_of_destroy :
  (∀ j, (lone j).child = some 7 ↔ j = ()) ∧ Group.IsHeld { inhabited := true }
    ∧ ∃ owners' s', Course 7 lone { inhabited := true } [(.destroy (), loneEnd)] owners' s'
      ∧ (∀ j, (owners' j).child ≠ some 7) ∧ s'.killed = true ∧ s'.inhabited = false
  := by
  have only : ∀ j, (lone j).child = some 7 ↔ j = () := fun _ => iff_of_true rfl rfl
  have hheld : Group.IsHeld { inhabited := true } := ⟨rfl, rfl⟩
  have hruns : ((Move.destroy ()).perform lone).Runs loneEnd (.ok (Function.update lone () {})) :=
    Dialogue.runs_play Request.calm _
  have hpasses : (protocol 7).Passes { inhabited := true } loneEnd
      { inhabited := false, reaped := true, killed := true } := by
    have hasked : Turns 7 { inhabited := true } ⟨.signalGroup 7 Signal.terminate, ()⟩
        { inhabited := true } := ⟨rfl, rfl, rfl, by decide⟩
    have hreaped : Turns 7 { inhabited := true } ⟨.reap 7, Reaped.ended 0⟩
        { inhabited := true, reaped := true } := ⟨rfl, rfl, rfl, by decide⟩
    have hkilled : Turns 7 { inhabited := true, reaped := true } ⟨.signalGroup 7 Signal.kill, ()⟩
        { inhabited := false, reaped := true, killed := true } := ⟨rfl, rfl, rfl, by decide⟩
    exact .cons hasked (.cons hreaped (.cons hkilled (.nil _)))
  have hcourse := Course.move hruns hpasses (.done _ _)
  have hnobody : ∀ j, (Function.update lone () ({} : Owner) j).child ≠ some 7 := nofun
  obtain ⟨-, hkilled, hinhabited⟩ := killed_iff_of_course only hheld hcourse hnobody
  exact ⟨only, hheld, _, _, hcourse, hnobody, hkilled.2 (by decide),
    hinhabited (hkilled.2 (by decide))⟩

/-- A look reaps the leader, and the end of its owner then asks for nothing: a descendant in the
group goes on to run, and nothing will kill it. -/
theorem inhabited_of_look :
  ∃ (owners' : Unit → Owner) (s' : Group),
    Course 7 lone { inhabited := true }
      [(.look (), [⟨.reap 7, Reaped.ended 0⟩]), (.destroy (), [])] owners' s'
    ∧ (∀ j, (owners' j).child = none) ∧ s'.reaped = true ∧ s'.killed = false
    ∧ s'.inhabited = true
  := by
  have hlook : ((Move.look ()).perform lone).Runs [⟨.reap 7, Reaped.ended 0⟩]
      (.ok (Function.update lone () { exitCode := 0 })) := Dialogue.runs_play Request.calm _
  have hdestroy : ((Move.destroy ()).perform (Function.update lone () { exitCode := 0 })).Runs []
      (.ok (Function.update (Function.update lone () { exitCode := 0 }) () {})) :=
    Dialogue.runs_play Request.calm _
  have hreaped : Turns 7 { inhabited := true } ⟨.reap 7, Reaped.ended 0⟩
      { inhabited := true, reaped := true } := ⟨rfl, rfl, rfl, by decide⟩
  have hcourse := Course.move hlook (.cons hreaped (.nil _)) (.move hdestroy (.nil _) (.done _ _))
  exact ⟨_, _, hcourse, fun _ => rfl, rfl, rfl, rfl⟩

end Owner

end PerfGate
