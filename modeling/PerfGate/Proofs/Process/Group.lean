import Mathlib.Logic.Function.Basic
import Mathlib.Tactic.Use
import PerfGate.Process.Owner
import PerfGate.Proofs.Dialogue.Protocol

/-!
# What becomes of a process group

Owners are looked at, waited for, ended, moved and destroyed.  A group whose leader was reaped while
its owner ended it is killed behind the leader, and nothing of it is left.  A leader that was reaped
by a look at it, or by a wait for it, leaves an owner that no longer knows the group, which then is
never killed (`Owner.killed_iff_of_course`).
-/

namespace PerfGate

/-! ### Groups -/

namespace Exchange

/-- Whether an exchange tells that a process has ended. -/
def reaps (pid : Pid) : Exchange → Bool
  | ⟨.reap other, how⟩ => other == pid && how != .running
  | ⟨.await other, how⟩ => other == pid && how != .running
  | _ => false

/-- Whether an exchange kills a group. -/
def kills (group : Pid) : Exchange → Bool
  | ⟨.signalGroup other signal, _⟩ => other == group && signal == Signal.kill
  | _ => false

/-- Whether a wait for the end of a process, if that is what was asked, goes on until then. -/
def waits : Exchange → Bool
  | ⟨.await _, how⟩ => how != .running
  | _ => true

end Exchange

/-- What is known of a process group. -/
structure Group where
  /-- Whether some process of it runs. -/
  inhabited : Bool
  /-- Whether its leader was reaped. -/
  reaped : Bool := false
  /-- Whether it was killed then or later. -/
  killed : Bool := false

namespace Group

/-- What an exchange may make of a group.  Its processes do as they like, but none withstands being
killed, and none comes to a group without any. -/
structure Turns (g : Pid) (s : Group) (e : Exchange) (s' : Group) : Prop where
  /-- A wait is a wait for the end. -/
  waits : e.waits = true
  /-- The leader was reaped before, or now. -/
  reaped_eq : s'.reaped = (s.reaped || e.reaps g)
  /-- The group was killed before, or now and behind its leader. -/
  killed_eq : s'.killed = (s.killed || s.reaped && e.kills g)
  /-- Who is in the group was there before, and was not killed. -/
  inhabited : s'.inhabited = true → s.inhabited = true ∧ e.kills g = false

/-- The protocol about a group: nobody asks for the end of its leader once that was told. -/
def protocol (g : Pid) : Protocol Group where
  allows s q := s.reaped = true → q ≠ .reap g ∧ q ≠ .await g
  leads := Turns g

/-- Whether the leader was not reaped. -/
def IsHeld (s : Group) : Prop := s.reaped = false ∧ s.killed = false

/-- Whether the leader was reaped and the group was not killed behind it. -/
def IsLost (s : Group) : Prop := s.reaped = true ∧ s.killed = false

/-- Whether the leader was reaped and the group was killed behind it, so that nothing is left. -/
def IsOver (s : Group) : Prop := s.reaped = true ∧ s.killed = true ∧ s.inhabited = false

/-- Whether a request is about something else than the leader of a group and its end. -/
def IsForeign (g : Pid) (q : Request) : Prop :=
  q ≠ .reap g ∧ q ≠ .await g ∧ q ≠ .signalGroup g Signal.kill

variable {g : Pid} {q : Request}

theorem reaps_eq_false (hreap : q ≠ .reap g) (hawait : q ≠ .await g) (a : q.Answer) :
  Exchange.reaps g ⟨q, a⟩ = false
  := by
  cases q <;> simp_all [Exchange.reaps]

theorem kills_eq_false (h : q ≠ .signalGroup g Signal.kill) (a : q.Answer) :
  Exchange.kills g ⟨q, a⟩ = false
  := by
  cases q <;> simp_all [Exchange.kills]

/-- Whatever is not about its end leaves a group held. -/
theorem bears_isHeld (g : Pid) :
  (protocol g).Bears (fun q => q ≠ .reap g ∧ q ≠ .await g) IsHeld
  := by
  rintro q ⟨hreap, hawait⟩ s hs
  apply Protocol.keeps_single
  · intro _
    use hreap, hawait
  · intro a s' h
    constructor
    · rw [h.reaped_eq, hs.1, reaps_eq_false hreap hawait]
      rfl
    · rw [h.killed_eq, hs.1, hs.2]
      rfl

/-- What is borne by all that does not ask for the end of the leader is borne by what is foreign. -/
theorem bears_foreign {I : Group → Prop}
    (h : (protocol g).Bears (fun q => q ≠ .reap g ∧ q ≠ .await g) I) :
  (protocol g).Bears (IsForeign g) I
  := h.mono fun _ hq => ⟨hq.1, hq.2.1⟩

theorem bears_isLost (g : Pid) :
  (protocol g).Bears (IsForeign g) IsLost
  := by
  rintro q ⟨hreap, hawait, hkill⟩ s hs
  apply Protocol.keeps_single
  · intro _
    use hreap, hawait
  · intro a s' h
    constructor
    · rw [h.reaped_eq, hs.1]
      rfl
    · rw [h.killed_eq, hs.2, kills_eq_false hkill, Bool.and_false]
      rfl

theorem bears_isOver (g : Pid) :
  (protocol g).Bears (fun q => q ≠ .reap g ∧ q ≠ .await g) IsOver
  := by
  rintro q ⟨hreap, hawait⟩ s hs
  apply Protocol.keeps_single
  · intro _
    use hreap, hawait
  · intro a s' h
    refine ⟨?_, ?_, ?_⟩
    · rw [h.reaped_eq, hs.1]
      rfl
    · rw [h.killed_eq, hs.2.1]
      rfl
    · rw [← Bool.not_eq_true]
      intro hinhabited
      have hbefore := (h.inhabited hinhabited).1
      rw [hs.2.2] at hbefore
      cases hbefore

end Group

/-! ### What an owner does -/

namespace Owner

open PerfGate.Group Protocol

variable {g : Pid} {s : Group} {o : Owner}

section

variable {I : Group → Prop} {bad : Failure → Group → Prop}
  (hI : (protocol g).Bears (IsForeign g) I)

include hI

/-- A look at another child leaves a group as it is. -/
theorem keeps_look_of_ne (hs : I s) (ho : o.child ≠ some g) :
  (protocol g).Keeps s (fun o' s' => o'.child ≠ some g ∧ I s') bad o.look
  := by
  unfold look
  split
  · exact ⟨ho, hs⟩
  · rename_i pid hpid
    have hreap : Request.reap pid ≠ .reap g := by
      rintro ⟨⟩
      exact ho hpid
    apply hI.keeps_bind (.reap pid) ⟨hreap, nofun, nofun⟩ hs
    intro how s' hs'
    refine ⟨?_, hs'⟩
    cases how <;> simp [settle, ho]

theorem keeps_running_of_ne (hs : I s) (ho : o.child ≠ some g) :
  (protocol g).Keeps s (fun r s' => r.2.child ≠ some g ∧ I s') bad o.running
  := by
  apply (keeps_look_of_ne hI hs ho).bind
  intro o' s' h
  apply h

theorem keeps_waitLoop_of_ne (hs : I s) (ho : o.child ≠ some g) (sleeps : Nat) :
  (protocol g).Keeps s (fun r s' => r.2.child ≠ some g ∧ I s') (fun _ => I) (waitLoop sleeps o)
  := by
  induction sleeps generalizing s o with
  | zero =>
    apply (keeps_look_of_ne hI hs ho).bind
    intro o' s' h
    apply h
  | succ sleeps ih =>
    apply (keeps_look_of_ne hI hs ho).bind
    rintro o' s' ⟨ho', hs'⟩
    split
    · exact ⟨ho', hs'⟩
    · apply (hI.checkInterruption ⟨nofun, nofun, nofun⟩ s' hs').bind
      intro _ s₁ hs₁
      apply hI.keeps_bind (.sleep lookEveryMs) ⟨nofun, nofun, nofun⟩ hs₁
      intro _ s₂ hs₂
      apply ih hs₂ ho'

theorem keeps_graceLoop_of_ne {pid : Pid} (hpid : pid ≠ g) (hs : I s) (ho : o.child ≠ some g)
    (sleeps : Nat) :
  (protocol g).Keeps s (fun o' s' => o'.child ≠ some g ∧ I s') bad (graceLoop pid sleeps o)
  := by
  induction sleeps generalizing s o with
  | zero =>
    apply (keeps_look_of_ne hI hs ho).bind
    rintro o' s' ⟨ho', hs'⟩
    split
    · exact ⟨ho', hs'⟩
    · apply hI.keeps_bind (.warn _) ⟨nofun, nofun, nofun⟩ hs'
      intro _ s₁ hs₁
      apply hI.keeps_bind (.signalGroup pid Signal.kill) ⟨nofun, nofun, by simp [hpid]⟩ hs₁
      intro _ s₂ hs₂
      apply hI.keeps_bind (.await pid) ⟨nofun, by simp [hpid], nofun⟩ hs₂
      intro how s₃ hs₃
      refine ⟨?_, hs₃⟩
      cases how <;> simp [settle, ho']
  | succ sleeps ih =>
    apply (keeps_look_of_ne hI hs ho).bind
    rintro o' s' ⟨ho', hs'⟩
    split
    · exact ⟨ho', hs'⟩
    · apply hI.keeps_bind (.sleep lookEveryMs) ⟨nofun, nofun, nofun⟩ hs'
      intro _ s₁ hs₁
      apply ih hs₁ ho'

/-- The end of another child leaves a group as it is. -/
theorem keeps_terminate_of_ne (hs : I s) (ho : o.child ≠ some g) (grace : Int) :
  (protocol g).Keeps s (fun o' s' => o'.child ≠ some g ∧ I s') bad (o.terminate grace)
  := by
  unfold terminate
  split
  · exact ⟨ho, hs⟩
  · rename_i pid hchild
    have hpid : pid ≠ g := by
      rintro rfl
      exact ho hchild
    apply hI.keeps_bind (.signalGroup pid Signal.terminate) ⟨nofun, nofun, by simp [hpid]⟩ hs
    intro _ s₁ hs₁
    apply (keeps_graceLoop_of_ne hI hpid hs₁ ho _).bind
    rintro o' s₂ ⟨ho', hs₂⟩
    apply hI.keeps_bind (.signalGroup pid Signal.kill) ⟨nofun, nofun, by simp [hpid]⟩ hs₂
    intro _ s₃ hs₃
    exact ⟨ho', hs₃⟩

end

/-! ### The end of a group -/

/-- What a look at the leader of a group leaves: it runs and is held, or it was reaped and the
group is lost. -/
def Seen (g : Pid) (o : Owner) (s : Group) : Prop :=
  o.child = some g ∧ s.IsHeld ∨ o.child = none ∧ s.IsLost

/-- A process that was told to have ended has left its owner. -/
theorem seen_settle (hs : s.IsHeld) (ho : o.child = some g) {e : Exchange} {how : Reaped}
    {s' : Group} (h : s.Turns g e s') (hreaps : e.reaps g = (how != .running)) :
  Seen g (o.settle how) s'
  := by
  have hkilled : s'.killed = false := by
    rw [h.killed_eq, hs.1, hs.2]
    rfl
  have hreaped := h.reaped_eq
  rw [hs.1, hreaps] at hreaped
  cases how with
  | running => exact .inl ⟨ho, hreaped, hkilled⟩
  | ended code => exact .inr ⟨rfl, hreaped, hkilled⟩
  | lost => exact .inr ⟨rfl, hreaped, hkilled⟩

variable {bad : Failure → Group → Prop}

theorem keeps_look (hs : s.IsHeld) (ho : o.child = some g) :
  (protocol g).Keeps s (Seen g) bad o.look
  := by
  unfold look
  rw [ho]
  apply keeps_single_bind (.reap g)
  · intro hreaped
    cases hs.1.symm.trans hreaped
  · intro how s' h
    apply seen_settle hs ho h
    cases how <;> simp [Exchange.reaps]

theorem keeps_running (hs : s.IsHeld) (ho : o.child = some g) :
  (protocol g).Keeps s (fun r => Seen g r.2) bad o.running
  := by
  apply (keeps_look hs ho).bind
  intro o' s' hseen
  apply hseen

/-- A wait for the leader is a number of looks; it may be interrupted between them. -/
theorem keeps_waitLoop (hs : s.IsHeld) (ho : o.child = some g) (sleeps : Nat) :
  (protocol g).Keeps s (fun r => Seen g r.2) (fun _ => IsHeld) (waitLoop sleeps o)
  := by
  induction sleeps generalizing s o with
  | zero =>
    apply (keeps_look hs ho).bind
    intro o' s' hseen
    apply hseen
  | succ sleeps ih =>
    apply (keeps_look hs ho).bind
    rintro o' s' (⟨ho', hs'⟩ | hlost)
    · rw [if_neg (by simp [ho'])]
      apply ((bears_isHeld g).checkInterruption ⟨nofun, nofun⟩ s' hs').bind
      intro _ s₁ hs₁
      apply (bears_isHeld g).keeps_bind (.sleep lookEveryMs) ⟨nofun, nofun⟩ hs₁
      intro _ s₂ hs₂
      apply ih hs₂ ho'
    · rw [if_pos (by simp [hlost.1])]
      apply Or.inr hlost

/-- A leader that was asked to end is reaped, at the latest when it was killed. -/
theorem keeps_graceLoop (hs : s.IsHeld) (ho : o.child = some g) (sleeps : Nat) :
  (protocol g).Keeps s (fun o' s' => o'.child = none ∧ s'.IsLost) bad (graceLoop g sleeps o)
  := by
  induction sleeps generalizing s o with
  | zero =>
    apply (keeps_look hs ho).bind
    rintro o' s' (⟨ho', hs'⟩ | hlost)
    · rw [if_neg (by simp [ho'])]
      apply (bears_isHeld g).keeps_bind (.warn _) ⟨nofun, nofun⟩ hs'
      intro _ s₁ hs₁
      apply (bears_isHeld g).keeps_bind (.signalGroup g Signal.kill) ⟨nofun, nofun⟩ hs₁
      intro _ s₂ hs₂
      apply keeps_single_bind (.await g)
      · intro hreaped
        cases hs₂.1.symm.trans hreaped
      · intro how s₃ h
        have hseen : Seen g (o'.settle how) s₃ := by
          apply seen_settle hs₂ ho' h
          cases how <;> simp [Exchange.reaps]
        -- a wait goes on until the end, so the leader does not run any more
        rcases hseen with ⟨hchild, hheld⟩ | hlost
        · have hreaped := h.reaped_eq
          rw [hheld.1, hs₂.1] at hreaped
          have hwaits : (how != .running) = true := h.waits
          simp [Exchange.reaps, hwaits] at hreaped
        · apply hlost
    · rw [if_pos (by simp [hlost.1])]
      apply hlost
  | succ sleeps ih =>
    apply (keeps_look hs ho).bind
    rintro o' s' (⟨ho', hs'⟩ | hlost)
    · rw [if_neg (by simp [ho'])]
      apply (bears_isHeld g).keeps_bind (.sleep lookEveryMs) ⟨nofun, nofun⟩ hs'
      intro _ s₁ hs₁
      apply ih hs₁ ho'
    · rw [if_pos (by simp [hlost.1])]
      apply hlost

/-- A group that its owner ends is killed behind its leader. -/
theorem keeps_terminate (hs : s.IsHeld) (ho : o.child = some g) (grace : Int) :
  (protocol g).Keeps s (fun o' s' => o'.child = none ∧ s'.IsOver) bad (o.terminate grace)
  := by
  unfold terminate
  rw [ho]
  apply (bears_isHeld g).keeps_bind (.signalGroup g Signal.terminate) ⟨nofun, nofun⟩ hs
  intro _ s₁ hs₁
  apply (keeps_graceLoop hs₁ ho _).bind
  rintro o' s₂ ⟨ho', hs₂⟩
  apply keeps_single_bind (.signalGroup g Signal.kill)
  · intro _
    exact ⟨nofun, nofun⟩
  · intro _ s₃ h
    have hkills : Exchange.kills g ⟨.signalGroup g Signal.kill, ()⟩ = true := by
      simp [Exchange.kills]
    refine ⟨ho', ?_, ?_, ?_⟩
    · rw [h.reaped_eq, hs₂.1]
      rfl
    · rw [h.killed_eq, hs₂.1, hkills, Bool.and_true, Bool.or_true]
    · rw [← Bool.not_eq_true]
      intro hinhabited
      cases hkills.symm.trans (h.inhabited hinhabited).2

end Owner

end PerfGate
