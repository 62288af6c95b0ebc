import PerfGate.Process.Run
import PerfGate.Proofs.Process.Group

/-!
# Commands within a deadline

A command is watched while its output is collected: it writes, ends, closes its output or leaves it
to descendants, and an interruption comes in, each at any time.  The wait for its end, which nothing
cuts short, is asked for once the command was killed, at the deadline or for an interruption; or
else once its output was closed or could not be read, and then the command may run on for as long as
it likes (`Command.wait_guarded_iff`).
-/

namespace PerfGate

/-! ### Exchanges about a command -/

namespace Exchange

/-- Whether an exchange starts a process with its output in a pipe. -/
def starts : Exchange → Bool
  | ⟨.startPiped _ _, .ok _⟩ => true
  | _ => false

/-- Whether an exchange tells that nothing more is to be had from a pipe. -/
def exhausts (pipe : PipeId) : Exchange → Bool
  | ⟨.listen other, .closed⟩ => other == pipe
  | ⟨.listen other, .failed⟩ => other == pipe
  | _ => false

/-- Whether an exchange may take some milliseconds: to listen takes one of them, or less if that is
no use, a wait any number, and all else no time. -/
def Lasts : Exchange → (ms : Nat) → Prop
  | ⟨.listen _, .output _⟩, ms => ms = 1
  | ⟨.listen _, .silence⟩, ms => ms = 1
  | ⟨.listen _, .closed⟩, ms => ms ≤ 1
  | ⟨.listen _, .failed⟩, ms => ms ≤ 1
  | ⟨.await _, _⟩, _ => True
  | _, ms => ms = 0

end Exchange

/-! ### What comes once -/

/-- What may come once, at some time: it has come before, or it comes between two times, or it has
not come yet. -/
structure Comes (start stop : Nat) (before after : Option Nat) : Prop where
  eq_some : ∀ {t}, before = some t → after = some t
  between : ∀ {t}, after = some t → before = none → start ≤ t ∧ t ≤ stop

namespace Comes

variable {start stop t bound : Nat} {before after : Option Nat}

theorem refl (start stop : Nat) (time : Option Nat) :
  Comes start stop time time
  := ⟨fun h => h, fun h hnone => nomatch h.symm.trans hnone⟩

theorem of_le (hstart : start ≤ t) (hstop : t ≤ stop) :
  Comes start stop none (some t)
  := by
  constructor
  · intro u h
    cases h
  · intro u h _
    obtain rfl := Option.some.inj h
    use hstart, hstop

/-- What has come comes no second time. -/
theorem eq_or (h : Comes start stop before after) (ht : after = some t) :
  before = some t ∨ start ≤ t ∧ t ≤ stop
  := by
  cases hb : before with
  | none => exact .inr (h.between ht hb)
  | some u => exact .inl ((h.eq_some hb).symm.trans ht)

/-- What had not come before a time has not come before it now. -/
theorem bound_le (h : Comes start stop before after) (hbound : bound ≤ start)
    (hbefore : ∀ t, before = some t → bound ≤ t) (ht : after = some t) :
  bound ≤ t
  := by
  rcases h.eq_or ht with ht' | ⟨hstart, -⟩
  · apply hbefore t ht'
  · exact Nat.le_trans hbound hstart

/-- What had come by the first time has come by the second. -/
theorem le_stop (h : Comes start stop before after) (hle : start ≤ stop)
    (hbefore : ∀ t, before = some t → t ≤ start) (ht : after = some t) :
  t ≤ stop
  := by
  rcases h.eq_or ht with ht' | ⟨-, hstop⟩
  · exact Nat.le_trans (hbefore t ht') hle
  · apply hstop

theorem ne_none (h : Comes start stop before after) (hne : before ≠ none) :
  after ≠ none
  := by
  obtain ⟨t, ht⟩ := Option.ne_none_iff_exists'.1 hne
  rw [h.eq_some ht]
  nofun

end Comes

/-! ### Commands -/

/-- What is known of a command and of what it is run in. -/
structure Watched where
  /-- The time since it was started, in milliseconds. -/
  clock : Nat := 0
  /-- Whether it was started. -/
  started : Bool := false
  /-- When it ended. -/
  ended : Option Nat := none
  /-- Whether some process may write its output: itself, or a descendant. -/
  isHeld : Bool := true
  /-- When the reader listened to be told that nothing more is to be had of its output. -/
  lost : Option Nat := none
  /-- When an interrupting signal came in. -/
  interruption : Option Nat := none
  /-- When its group was killed. -/
  killed : Option Nat := none

namespace Watched

/-- What an exchange may make of a command.  The command and its descendants do as they like, and
signals come in when they do. -/
structure Turns (pid : Pid) (pipe : PipeId) (s : Watched) (e : Exchange) (s' : Watched) : Prop where
  /-- Time goes on as long as the exchange does. -/
  lasts : ∃ ms, e.Lasts ms ∧ s'.clock = s.clock + ms
  /-- The command was started before, or now. -/
  started_eq : s'.started = (s.started || e.starts)
  /-- What was started is the command. -/
  named : ∀ command withErrors child, e = ⟨.startPiped command withErrors, .ok child⟩ →
    child = (pid, pipe)
  /-- The command ends when it likes. -/
  ended : Comes s.clock s'.clock s.ended s'.ended
  /-- A wait for its end goes on until then. -/
  awaited : ∀ how, e = ⟨.await pid, how⟩ → s'.ended ≠ none
  /-- An output that is closed stays closed. -/
  isHeld : s'.isHeld = true → s.isHeld = true
  /-- An output is silent only while some process may write it, and is told to be closed only if none
  may. -/
  heard : (e = ⟨.listen pipe, .silence⟩ → s.isHeld = true)
    ∧ (e = ⟨.listen pipe, .closed⟩ → s'.isHeld = false)
  /-- The output was lost before, or now. -/
  lost_eq : s'.lost = s.lost.or (if e.exhausts pipe then some s.clock else none)
  /-- A signal comes in when it does. -/
  interruption : Comes s.clock s'.clock s.interruption s'.interruption
  /-- What is told of a signal is so. -/
  told : (e = ⟨.interrupted, true⟩ → s'.interruption ≠ none)
    ∧ (e = ⟨.interrupted, false⟩ → s.interruption = none)
  /-- The group was killed before, or now. -/
  killed_eq : s'.killed = s.killed.or (if e.kills pid then some s.clock else none)

/-- The protocol about a command: its end is waited for, and that of no other process, and only once
it was killed or its output was lost, but not both. -/
def protocol (pid : Pid) (pipe : PipeId) : Protocol Watched where
  allows s q := ∀ other, q = .await other → other = pid ∧ (s.killed = none ↔ s.lost ≠ none)
  leads := Turns pid pipe

/-- Whether a wait for the end of a command is sure to end: it has ended, or was killed. -/
def Guarded (s : Watched) : Prop := s.ended ≠ none ∨ s.killed ≠ none

/-- Whether the output of a command was lost before its deadline, and no interruption had come in
before that. -/
def HasLost (budget : Nat) (s : Watched) : Prop :=
  ∃ l, s.lost = some l ∧ l < budget ∧ l ≤ s.clock ∧ ∀ i, s.interruption = some i → l ≤ i

/-- How a command within a budget may come to its end, and what is then told of it. -/
inductive Ends (budget : Nat) (s : Watched) : Except Failure Completion → Prop
  /-- Its output was lost, and it was left to end as it likes. -/
  | awaited {c : Completion} (timedOut : c.timedOut = false) (lost : s.HasLost budget)
      (killed : s.killed = none) (ended : s.ended ≠ none) : Ends budget s (.ok c)
  /-- It was killed at its deadline, and no interruption had come in before. -/
  | timedOut {c : Completion} (timedOut : c.timedOut = true) (lost : s.lost = none)
      (killed : s.killed = some budget) (ended : s.ended ≠ none)
      (interruption : ∀ i, s.interruption = some i → budget ≤ i) : Ends budget s (.ok c)
  /-- It was killed for an interruption, at the latest at its deadline. -/
  | interrupted {i k : Nat} (lost : s.lost = none) (interruption : s.interruption = some i)
      (killed : s.killed = some k) (since : i ≤ k) (inTime : k ≤ budget) (ended : s.ended ≠ none) :
      Ends budget s (.error (.gate RoundError.interrupted))

variable {pid : Pid} {pipe : PipeId} {s s' : Watched} {e : Exchange} {budget left : Nat}

/-! ### Single exchanges -/

theorem allows_of_ne {q : Request} (h : ∀ other, q ≠ .await other) :
  (protocol pid pipe).allows s q
  := fun other hother => absurd hother (h other)

theorem Turns.clock_le (h : Turns pid pipe s e s') :
  s.clock ≤ s'.clock
  := by
  obtain ⟨ms, -, hclock⟩ := h.lasts
  omega

/-- Whether an exchange takes no time, kills nothing and loses no output. -/
def IsCalm (pid : Pid) (pipe : PipeId) (e : Exchange) : Prop :=
  (∀ ms, e.Lasts ms → ms = 0) ∧ e.kills pid = false ∧ e.exhausts pipe = false

theorem Turns.of_isCalm (h : Turns pid pipe s e s') (he : IsCalm pid pipe e) :
  s'.clock = s.clock ∧ s'.killed = s.killed ∧ s'.lost = s.lost
  := by
  obtain ⟨hlasts, hkills, hexhausts⟩ := he
  obtain ⟨ms, hms, hclock⟩ := h.lasts
  refine ⟨?_, ?_, ?_⟩
  · rw [hclock, hlasts ms hms, Nat.add_zero]
  · rw [h.killed_eq, hkills, if_neg Bool.false_ne_true, Option.or_none]
  · rw [h.lost_eq, hexhausts, if_neg Bool.false_ne_true, Option.or_none]

/-- A group is killed. -/
theorem Turns.kill (h : Turns pid pipe s ⟨.signalGroup pid Signal.kill, ()⟩ s')
    (hs : s.killed = none) :
  s'.killed = some s.clock ∧ s'.lost = s.lost
  := by
  constructor
  · rw [h.killed_eq, hs, Option.none_or, if_pos (by simp [Exchange.kills])]
  · rw [h.lost_eq]
    apply Option.or_none

/-- A wait for the end of a command is over. -/
theorem Turns.await {how : Reaped} (h : Turns pid pipe s ⟨.await pid, how⟩ s') :
  s'.killed = s.killed ∧ s'.lost = s.lost ∧ s'.ended ≠ none
  := by
  refine ⟨?_, ?_, h.awaited how rfl⟩
  · rw [h.killed_eq]
    apply Option.or_none
  · rw [h.lost_eq]
    apply Option.or_none

theorem HasLost.turn (hs : s.HasLost budget) (h : Turns pid pipe s e s') (hlost : s'.lost = s.lost) :
  s'.HasLost budget
  := by
  obtain ⟨l, hl, hinTime, hle, hlate⟩ := hs
  refine ⟨l, hlost.trans hl, hinTime, Nat.le_trans hle h.clock_le, ?_⟩
  intro i hi
  apply h.interruption.bound_le hle hlate hi

/-! ### Before the start -/

/-- A command was not started yet, and no time has gone by. -/
structure IsFresh (s : Watched) : Prop where
  started : s.started = false
  clock_eq : s.clock = 0
  killed_eq : s.killed = none
  lost_eq : s.lost = none
  since : ∀ i, s.interruption = some i → i ≤ s.clock

theorem isFresh_start : IsFresh {} := ⟨rfl, rfl, rfl, rfl, nofun⟩

theorem IsFresh.calm (hs : s.IsFresh) (h : Turns pid pipe s e s') (he : IsCalm pid pipe e)
    (hstarts : e.starts = false) :
  s'.IsFresh
  := by
  obtain ⟨hclock, hkilled, hlost⟩ := h.of_isCalm he
  refine ⟨?_, hclock.trans hs.clock_eq, hkilled.trans hs.killed_eq, hlost.trans hs.lost_eq, ?_⟩
  · rw [h.started_eq, hs.started, hstarts]
    rfl
  · intro i hi
    apply h.interruption.le_stop h.clock_le hs.since hi

/-! ### While output is collected -/

/-- The output of a command is collected, with some milliseconds left. -/
structure Collecting (budget left : Nat) (s : Watched) : Prop where
  started : s.started = true
  clock_eq : s.clock + left = budget
  killed_eq : s.killed = none
  lost_eq : s.lost = none
  since : ∀ i, s.interruption = some i → i ≤ s.clock

/-- A command was started, and all its time is left. -/
theorem IsFresh.start (hs : s.IsFresh) {command : Command} {withErrors : Bool} {child : Pid × PipeId}
    (h : Turns pid pipe s ⟨.startPiped command withErrors, .ok child⟩ s') (budget : Nat) :
  s'.Collecting budget budget
  := by
  obtain ⟨hclock, hkilled, hlost⟩ := h.of_isCalm ⟨fun _ hms => hms, rfl, rfl⟩
  refine ⟨?_, ?_, hkilled.trans hs.killed_eq, hlost.trans hs.lost_eq, ?_⟩
  · rw [h.started_eq]
    apply Bool.or_true
  · rw [hclock, hs.clock_eq, Nat.zero_add]
  · intro i hi
    apply h.interruption.le_stop h.clock_le hs.since hi

/-- How things are with a command whose output is no longer collected. -/
def Left (budget : Nat) (s : Watched) : Leaving → Prop
  | .closed | .unreadable => s.HasLost budget
  | .timedOut => s.lost = none ∧ s.clock = budget ∧ ∀ i, s.interruption = some i → budget ≤ i
  | .interrupted => s.lost = none ∧ s.clock ≤ budget ∧ ∃ i, s.interruption = some i ∧ i ≤ s.clock

/-- A look for an interruption that found one. -/
theorem Collecting.left_interrupted (hs : s.Collecting budget left)
    (h : Turns pid pipe s ⟨.interrupted, true⟩ s') :
  s'.killed = none ∧ s'.Left budget .interrupted
  := by
  obtain ⟨hclock, hkilled, hlost⟩ := h.of_isCalm ⟨fun _ hms => hms, rfl, rfl⟩
  obtain ⟨i, hi⟩ := Option.ne_none_iff_exists'.1 (h.told.1 rfl)
  refine ⟨hkilled.trans hs.killed_eq, hlost.trans hs.lost_eq, ?_, i, hi, ?_⟩
  · have := hs.clock_eq
    omega
  · apply h.interruption.le_stop h.clock_le hs.since hi

/-- A look for an interruption that found none. -/
theorem Collecting.look (hs : s.Collecting budget left)
    (h : Turns pid pipe s ⟨.interrupted, false⟩ s') :
  s'.Collecting budget left ∧ ∀ i, s'.interruption = some i → s'.clock ≤ i
  := by
  obtain ⟨hclock, hkilled, hlost⟩ := h.of_isCalm ⟨fun _ hms => hms, rfl, rfl⟩
  have hnone := h.told.2 rfl
  refine ⟨⟨?_, ?_, hkilled.trans hs.killed_eq, hlost.trans hs.lost_eq, ?_⟩, ?_⟩
  · rw [h.started_eq, hs.started, Bool.true_or]
  · rw [hclock, hs.clock_eq]
  · intro i hi
    apply h.interruption.le_stop h.clock_le hs.since hi
  · intro i hi
    apply h.interruption.bound_le (Nat.le_of_eq hclock) _ hi
    rw [hnone]
    nofun

/-- A millisecond in which the output was not lost. -/
theorem Collecting.listen (hs : s.Collecting budget (left + 1)) {heard : Heard}
    (h : Turns pid pipe s ⟨.listen pipe, heard⟩ s')
    (hlasts : ∀ ms, Exchange.Lasts ⟨.listen pipe, heard⟩ ms → ms = 1)
    (hexhausts : Exchange.exhausts pipe ⟨.listen pipe, heard⟩ = false) :
  s'.Collecting budget left
  := by
  obtain ⟨ms, hms, hclock⟩ := h.lasts
  obtain rfl := hlasts ms hms
  constructor
  · rw [h.started_eq, hs.started, Bool.true_or]
  · have := hs.clock_eq
    omega
  · rw [h.killed_eq, hs.killed_eq]
    rfl
  · rw [h.lost_eq, hs.lost_eq, hexhausts]
    rfl
  · intro i hi
    apply h.interruption.le_stop h.clock_le hs.since hi

/-- The listener was told that nothing more is to be had. -/
theorem Collecting.lose (hs : s.Collecting budget (left + 1))
    (hlate : ∀ i, s.interruption = some i → s.clock ≤ i) {heard : Heard}
    (h : Turns pid pipe s ⟨.listen pipe, heard⟩ s')
    (hexhausts : Exchange.exhausts pipe ⟨.listen pipe, heard⟩ = true) :
  s'.killed = none ∧ s'.HasLost budget
  := by
  constructor
  · rw [h.killed_eq, hs.killed_eq]
    rfl
  · use s.clock
    refine ⟨?_, ?_, h.clock_le, ?_⟩
    · rw [h.lost_eq, hs.lost_eq, Option.none_or, if_pos hexhausts]
    · have := hs.clock_eq
      omega
    · intro i hi
      apply h.interruption.bound_le (Nat.le_refl _) hlate hi

/-- Whatever is calm leaves things as they are once the output is no longer collected. -/
theorem Left.calm {leaving : Leaving} (hs : s.Left budget leaving) (h : Turns pid pipe s e s')
    (he : IsCalm pid pipe e) :
  s'.Left budget leaving
  := by
  obtain ⟨hclock, -, hlost⟩ := h.of_isCalm he
  cases leaving with
  | closed | unreadable => exact HasLost.turn hs h hlost
  | timedOut =>
    obtain ⟨hlost₀, hclock₀, hlate⟩ := hs
    refine ⟨hlost.trans hlost₀, hclock.trans hclock₀, ?_⟩
    intro i hi
    apply h.interruption.bound_le (Nat.le_of_eq hclock₀.symm) hlate hi
  | interrupted =>
    obtain ⟨hlost₀, hclock₀, i, hi, hle⟩ := hs
    rw [← hclock] at hclock₀ hle
    exact ⟨hlost.trans hlost₀, hclock₀, i, h.interruption.eq_some hi, hle⟩

/-- What is told of a command that was waited for. -/
def verdict : Leaving × Completion → Except Failure Completion
  | (.interrupted, _) => .error (.gate RoundError.interrupted)
  | (_, c) => .ok c

end Watched

/-! ### What a run asks -/

namespace Command

open Protocol Watched

variable {pid : Pid} {pipe : PipeId} {s : Watched} {budget : Nat}
  {bad : Failure → Watched → Prop}

theorem keeps_collect {left : Nat} (hs : s.Collecting budget left) (out : Text) :
  (protocol pid pipe).Keeps s (fun r s' => s'.killed = none ∧ s'.Left budget r.1) bad
    (collect pipe left out)
  := by
  induction left generalizing s out with
  | zero =>
    apply keeps_single_bind .interrupted (allows_of_ne nofun)
    intro stopped s₁ h
    cases stopped with
    | true => apply hs.left_interrupted h
    | false =>
      obtain ⟨hs₁, hlate⟩ := hs.look h
      have hclock : s₁.clock = budget := hs₁.clock_eq
      exact ⟨hs₁.killed_eq, hs₁.lost_eq, hclock, hclock ▸ hlate⟩
  | succ left ih =>
    apply keeps_single_bind .interrupted (allows_of_ne nofun)
    intro stopped s₁ h
    cases stopped with
    | true => apply hs.left_interrupted h
    | false =>
      obtain ⟨hs₁, hlate⟩ := hs.look h
      apply keeps_single_bind (.listen pipe) (allows_of_ne nofun)
      intro heard s₂ h₂
      cases heard with
      | output | silence =>
        apply ih
        apply hs₁.listen h₂ (fun _ hms => hms) rfl
      | closed | failed => apply hs₁.lose hlate h₂ (by simp [Exchange.exhausts])

/-- A command that is killed is waited for behind that. -/
theorem keeps_kill {α : Type} {good : α → Watched → Prop} (hkilled : s.killed = none)
    (hlost : s.lost = none) {f : Reaped → Dialogue α}
    (hf : ∀ how s₁ s₂, Turns pid pipe s ⟨.signalGroup pid Signal.kill, ()⟩ s₁ →
      Turns pid pipe s₁ ⟨.await pid, how⟩ s₂ → s₂.killed = some s.clock → s₂.lost = none →
      s₂.ended ≠ none → (protocol pid pipe).Keeps s₂ good bad (f how)) :
  (protocol pid pipe).Keeps s good bad (do
    signalGroup pid Signal.kill
    f (← await pid))
  := by
  apply keeps_single_bind (.signalGroup pid Signal.kill) (allows_of_ne nofun)
  intro _ s₁ h₁
  obtain ⟨hkilled₁, hlost₁⟩ := h₁.kill hkilled
  apply keeps_single_bind (.await pid)
  · rintro _ ⟨⟩
    exact ⟨rfl, iff_of_false (by simp [hkilled₁]) (by simp [hlost₁, hlost])⟩
  · intro how s₂ h₂
    obtain ⟨hkilled₂, hlost₂, hended⟩ := h₂.await
    apply hf how s₁ s₂ h₁ h₂ (hkilled₂.trans hkilled₁) (hlost₂.trans (hlost₁.trans hlost)) hended

/-- A command whose output is no longer collected is killed if it has to be, and waited for. -/
theorem keeps_waitOut {leaving : Leaving} (hkilled : s.killed = none) (hs : s.Left budget leaving)
    (output : Text) :
  (protocol pid pipe).Keeps s (fun r s' => s'.Ends budget (verdict r)) bad (do
    if leaving.kills then signalGroup pid Signal.kill
    let exitCode := (← await pid).exitCode
    pure (leaving, ({ exitCode, output, timedOut := leaving == .timedOut } : Completion)))
  := by
  cases leaving with
  | closed | unreadable =>
    have hlost : s.lost ≠ none := by
      obtain ⟨l, hl, -⟩ := hs
      simp [hl]
    apply keeps_single_bind (.await pid)
    · rintro _ ⟨⟩
      exact ⟨rfl, iff_of_true hkilled hlost⟩
    · intro how s₁ h
      obtain ⟨hkilled₁, hlost₁, hended⟩ := h.await
      exact .awaited rfl (HasLost.turn hs h hlost₁) (hkilled₁.trans hkilled) hended
  | timedOut =>
    obtain ⟨hlost, hclock, hlate⟩ := hs
    apply keeps_kill hkilled hlost
    intro how s₁ s₂ h₁ h₂ hkilled₂ hlost₂ hended
    apply Ends.timedOut rfl hlost₂ (hclock ▸ hkilled₂) hended
    intro i hi
    apply h₂.interruption.bound_le (hclock ▸ h₁.clock_le) _ hi
    intro i hi
    apply h₁.interruption.bound_le (Nat.le_of_eq hclock.symm) hlate hi
  | interrupted =>
    obtain ⟨hlost, hclock, i, hi, hle⟩ := hs
    apply keeps_kill hkilled hlost
    intro how s₁ s₂ h₁ h₂ hkilled₂ hlost₂ hended
    have hi₂ := h₂.interruption.eq_some (h₁.interruption.eq_some hi)
    exact .interrupted hlost₂ hi₂ hkilled₂ hle hclock hended

theorem keeps_finish {budgetMs : Int}
    (hs : s.Collecting (keptMs budgetMs).toNat (keptMs budgetMs).toNat) :
  (protocol pid pipe).Keeps s (fun r s' => s'.Ends (keptMs budgetMs).toNat (verdict r)) bad
    (finish pid pipe budgetMs)
  := by
  apply (keeps_collect hs []).bind
  rintro ⟨leaving, output⟩ s₁ ⟨hkilled, hs₁⟩
  apply keeps_single_bind (.hangUp pipe) (allows_of_ne nofun)
  intro _ s₂ h₂
  have hcalm : IsCalm pid pipe ⟨.hangUp pipe, ()⟩ := ⟨fun _ hms => hms, rfl, rfl⟩
  apply keeps_waitOut ((h₂.of_isCalm hcalm).2.1.trans hkilled) (hs₁.calm h₂ hcalm)

/-- Behind its end, an interruption is told as an error, and all else as it came out. -/
theorem keeps_tell {r : Leaving × Completion} (hs : s.Ends budget (verdict r)) :
  (protocol pid pipe).Keeps s (fun c s' => s'.Ends budget (.ok c))
    (fun e s' => s'.Ends budget (.error e)) (do
    if r.1 == .interrupted then checkInterruption
    pure r.2)
  := by
  obtain ⟨leaving, c⟩ := r
  cases leaving with
  | closed | unreadable | timedOut => exact hs
  | interrupted =>
    apply keeps_single_bind .interrupted (allows_of_ne nofun)
    intro stopped s₁ h
    cases hs with
    | interrupted lost interruption killed since inTime ended =>
      cases stopped with
      | true =>
        obtain ⟨-, hkilled, hlost⟩ := h.of_isCalm ⟨fun _ hms => hms, rfl, rfl⟩
        exact .interrupted (hlost.trans lost) (h.interruption.eq_some interruption)
          (hkilled.trans killed) since inTime (h.ended.ne_none ended)
      | false => cases interruption.symm.trans (h.told.2 rfl)

theorem keeps_run (argv : List Text) (budgetMs : Int) (core : Option Int) (withErrors : Bool) :
  (protocol pid pipe).Keeps {} (fun c s => s.started = true → s.Ends (keptMs budgetMs).toNat (.ok c))
    (fun e s => s.started = true → s.Ends (keptMs budgetMs).toNat (.error e))
    (run argv budgetMs core withErrors)
  := by
  unfold run
  split
  · exact nofun
  · apply keeps_single_bind .environment (allows_of_ne nofun)
    intro entries s₁ h₁
    have hs₁ : s₁.IsFresh := isFresh_start.calm h₁ ⟨fun _ hms => hms, rfl, rfl⟩ rfl
    apply keeps_single_bind (.startPiped _ withErrors) (allows_of_ne nofun)
    intro child s₂ h₂
    cases child with
    | error refusal =>
      intro hstarted
      rw [h₂.started_eq, hs₁.started] at hstarted
      cases hstarted
    | ok child =>
      obtain rfl := h₂.named _ _ _ rfl
      apply (keeps_finish (hs₁.start h₂ _)).bind
      intro r s₃ hs₃
      apply (keeps_tell hs₃).mono
      · intro c s' hs' _
        apply hs'
      · intro e s' hs' _
        apply hs'

/-! ### Runs of commands -/

/-- A command is run within a budget, whatever it does and whenever an interruption comes in.
Whenever its end is waited for, the wait is sure to end, unless the output was lost while the
command runs on.  Behind its end it was killed exactly if its output was not lost: for an
interruption that had come in, which is then the error, or at its deadline, which is told. -/
theorem wait_guarded_iff {pid : Pid} {pipe : PipeId} {es : List Exchange} {s : Watched}
    (h : (protocol pid pipe).Passes {} es s) (argv : List Text) (budgetMs : Int)
    (core : Option Int) (withErrors : Bool) :
  (∀ other, (run argv budgetMs core withErrors : Dialogue _).Asks es (.await other) →
      other = pid ∧ (s.Guarded ↔ ¬ (s.lost ≠ none ∧ s.ended = none)))
    ∧ ∀ result, (run argv budgetMs core withErrors : Dialogue _).Runs es result →
      s.started = true → s.Ends (keptMs budgetMs).toNat result
  := by
  constructor
  · intro other hasks
    obtain ⟨hother, hkilled⟩ := (keeps_run argv budgetMs core withErrors).allows_of_asks hasks h
      other rfl
    use hother
    rw [Guarded, ← hkilled, not_and_or, or_comm]
  · intro result hruns hstarted
    obtain ⟨-, hending⟩ := (keeps_run argv budgetMs core withErrors).observes hruns h
    cases result with
    | ok c => apply hending hstarted
    | error e => apply hending hstarted

/-! ### Two commands -/

/-- Some exchanges need leave no trace. -/
theorem turns_self (pid : Pid) (pipe : PipeId) (hs : s.interruption = none) :
  Turns pid pipe s ⟨.environment, []⟩ s ∧ Turns pid pipe s ⟨.interrupted, false⟩ s
    ∧ Turns pid pipe s ⟨.hangUp pipe, ()⟩ s
  := by
  refine ⟨?_, ?_, ?_⟩
  all_goals
    constructor
    all_goals
      simp [hs, Comes.refl, Exchange.Lasts, Exchange.starts, Exchange.exhausts, Exchange.kills]

/-- A command is started. -/
theorem turns_start (argv : List Text) :
  Turns pid pipe {} ⟨.startPiped { argv, environment := [] } false, .ok (pid, pipe)⟩
    { started := true }
  := by
  constructor
  all_goals simp [Comes.refl, Exchange.Lasts, Exchange.starts, Exchange.exhausts, Exchange.kills]

/-- A host on which a command stays silent. -/
def silent : (q : Request) → q.Answer
  | .startPiped _ _ => .ok (7, 0)
  | .listen _ => .silence
  | .await _ => .ended 137
  | q => q.calm

/-- A silent command within a millisecond. -/
theorem wait_guarded_silent :
  ∃ es s, (protocol 7 0).Passes {} es s
    ∧ (run ["sleep".toList] 1 : Dialogue _).Runs es
      (.ok { exitCode := 137, output := [], timedOut := true })
    ∧ s.Ends 1 (.ok { exitCode := 137, output := [], timedOut := true })
  := by
  let running : Watched := { started := true }
  let late : Watched := { running with clock := 1 }
  let killed : Watched := { late with killed := some 1 }
  let settled : Watched := { killed with ended := some 1 }
  have hruns : (run ["sleep".toList] 1 : Dialogue Completion).Runs _ _ :=
    Dialogue.runs_play silent _
  have hlisten : Turns 7 0 running ⟨.listen 0, .silence⟩ late := by
    constructor
    all_goals
      simp [running, late, Comes.refl, Exchange.Lasts, Exchange.starts, Exchange.exhausts,
        Exchange.kills]
  have hkill : Turns 7 0 late ⟨.signalGroup 7 Signal.kill, ()⟩ killed := by
    constructor
    all_goals
      simp [running, late, killed, Comes.refl, Exchange.Lasts, Exchange.starts, Exchange.exhausts,
        Exchange.kills]
  have hawait : Turns 7 0 killed ⟨.await 7, .ended 137⟩ settled := by
    constructor
    case ended => exact .of_le (Nat.le_refl _) (Nat.le_refl _)
    all_goals
      simp [running, late, killed, settled, Comes.refl, Exchange.Lasts, Exchange.starts,
        Exchange.exhausts, Exchange.kills]
  obtain ⟨henvironment, -, -⟩ := turns_self 7 0 (s := {}) rfl
  obtain ⟨-, hlook, -⟩ := turns_self 7 0 (s := running) rfl
  obtain ⟨-, hlate, hhangUp⟩ := turns_self 7 0 (s := late) rfl
  have hpasses : (protocol 7 0).Passes {} _ settled :=
    .cons henvironment (.cons (turns_start ["sleep".toList]) (.cons hlook (.cons hlisten (.cons hlate
      (.cons hhangUp (.cons hkill (.cons hawait (.nil _))))))))
  exact ⟨_, settled, hpasses, hruns, (wait_guarded_iff hpasses _ 1 none false).2 _ hruns rfl⟩

/-- A command that closes its output and then runs on for a second is waited for that long, killed
by nobody, and told to be in time. -/
theorem wait_unguarded_closed :
  ∃ es s s', (protocol 1 0).Passes {} es s
    ∧ (run ["sh".toList] 200 : Dialogue _).Asks es (.await 1) ∧ ¬ s.Guarded
    ∧ (protocol 1 0).Passes {} (es ++ [⟨.await 1, .ended 0⟩]) s'
    ∧ (run ["sh".toList] 200 : Dialogue _).Runs (es ++ [⟨.await 1, .ended 0⟩])
      (.ok { exitCode := 0, output := [], timedOut := false })
    ∧ s'.ended = some 1000 ∧ s'.killed = none
  := by
  let running : Watched := { started := true }
  let closed : Watched := { running with isHeld := false, lost := some 0 }
  let settled : Watched := { closed with clock := 1000, ended := some 1000 }
  have hruns : (run ["sh".toList] 200 : Dialogue Completion).Runs
      ([_, _, _, _, _] ++ [⟨.await 1, .ended 0⟩]) _ :=
    Dialogue.runs_play Request.calm _
  have hlisten : Turns 1 0 running ⟨.listen 0, .closed⟩ closed := by
    constructor
    all_goals
      simp [running, closed, Comes.refl, Exchange.Lasts, Exchange.starts, Exchange.exhausts,
        Exchange.kills]
  have hawait : Turns 1 0 closed ⟨.await 1, .ended 0⟩ settled := by
    constructor
    case ended => exact .of_le (Nat.zero_le _) (Nat.le_refl _)
    all_goals
      simp [running, closed, settled, Comes.refl, Exchange.Lasts, Exchange.starts, Exchange.exhausts,
        Exchange.kills]
  obtain ⟨henvironment, -, -⟩ := turns_self 1 0 (s := {}) rfl
  obtain ⟨-, hlook, -⟩ := turns_self 1 0 (s := running) rfl
  obtain ⟨-, -, hhangUp⟩ := turns_self 1 0 (s := closed) rfl
  have hpasses : (protocol 1 0).Passes {} [_, _, _, _, _] closed :=
    .cons henvironment (.cons (turns_start ["sh".toList]) (.cons hlook (.cons hlisten
      (.cons hhangUp (.nil _)))))
  exact ⟨_, closed, settled, hpasses, hruns.asks, by simp [closed, running, Watched.Guarded],
    hpasses.append (.cons hawait (.nil _)), hruns, rfl, rfl⟩

end Command

end PerfGate
