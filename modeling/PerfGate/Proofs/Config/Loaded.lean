import PerfGate.Config.Environment
import PerfGate.Proofs.Fallible
import PerfGate.Proofs.Numeral

/-!
# What loaded settings have in common

A variable can give a field any value of its kind and no other: an integer that is read is a word
of the field's width.  A property that every such value keeps (`SettingField.Keeps`) is kept by a
whole table of variables, whatever the environment holds (`Binding.keeps_loadAll`).  So all
integers of loaded settings are words (`Config.fits_of_load`).
-/

namespace PerfGate

/-! ### Values -/

theorem inRange64_of_readWideInteger {name value : Text} {n : Int}
    (h : readWideInteger name value = .ok n) :
  inRange64 n = true
  := by
  unfold readWideInteger at h
  split at h
  · rename_i k hk
    obtain rfl := Except.ok.inj h
    apply Numeral.inRange64_of_integer? hk
  · cases h

theorem inRange32_of_readInteger {name value : Text} {n : Int}
    (h : readInteger name value = .ok n) :
  inRange32 n = true
  := by
  obtain ⟨k, -, h⟩ := exists_ok_of_bind_eq_ok h
  split at h
  · rename_i hrange
    obtain rfl := Except.ok.inj h
    apply hrange
  · cases h

theorem exists_of_map_eq_ok {ε α β : Type} {x : Except ε α} {f : α → β} {b : β}
    (h : x.map f = .ok b) :
  ∃ a, x = .ok a ∧ f a = b
  := by
  cases x with
  | error e => cases h
  | ok a => use a, rfl, Except.ok.inj h

/-! ### Fields and tables -/

section

variable {σ : Type} {P : σ → Prop} {env : Environment} {s s' : σ}

/-- Whether a property of settings is kept by every value that a variable can give a field. -/
def SettingField.Keeps (P : σ → Prop) : SettingField σ → Prop
  | .text f => ∀ s value, P s → P (f.set s value)
  | .integer f => ∀ s n, inRange32 n = true → P s → P (f.set s n)
  | .wideInteger f => ∀ s n, inRange64 n = true → P s → P (f.set s n)
  | .optionalInteger f => ∀ s n, inRange32 n = true → P s → P (f.set s (some n))
  | .number f => ∀ s x, P s → P (f.set s x)
  | .flag f => ∀ s b, P s → P (f.set s b)

namespace Binding

theorem keeps_assign {b : Binding σ} (hb : b.field.Keeps P) {value : Text}
    (h : b.assign value s = .ok s') (hs : P s) :
  P s'
  := by
  obtain ⟨name, field⟩ := b
  cases field with
  | text f =>
    obtain rfl := Except.ok.inj h
    apply hb s value hs
  | integer f =>
    obtain ⟨n, hn, rfl⟩ := exists_of_map_eq_ok h
    apply hb s n (inRange32_of_readInteger hn) hs
  | wideInteger f =>
    obtain ⟨n, hn, rfl⟩ := exists_of_map_eq_ok h
    apply hb s n (inRange64_of_readWideInteger hn) hs
  | optionalInteger f =>
    obtain ⟨n, hn, rfl⟩ := exists_of_map_eq_ok h
    apply hb s n (inRange32_of_readInteger hn) hs
  | number f =>
    obtain ⟨x, -, rfl⟩ := exists_of_map_eq_ok h
    apply hb s x hs
  | flag f =>
    obtain ⟨flag, -, rfl⟩ := exists_of_map_eq_ok h
    apply hb s flag hs

theorem keeps_load {b : Binding σ} (hb : b.field.Keeps P) (h : load env s b = .ok s')
    (hs : P s) :
  P s'
  := by
  unfold load at h
  split at h
  · obtain rfl := Except.ok.inj h
    apply hs
  · apply keeps_assign hb h hs

/-- What each variable of a table keeps, the table keeps. -/
theorem keeps_loadAll {bindings : List (Binding σ)} (hbindings : ∀ b ∈ bindings, b.field.Keeps P)
    (h : loadAll env bindings s = .ok s') (hs : P s) :
  P s'
  := by
  induction bindings generalizing s with
  | nil =>
    obtain rfl := Except.ok.inj h
    apply hs
  | cons b bindings ih =>
    obtain ⟨hb, hbindings⟩ := List.forall_mem_cons.1 hbindings
    rw [loadAll, List.foldlM_cons] at h
    obtain ⟨s₁, hfirst, hrest⟩ := exists_ok_of_bind_eq_ok h
    apply ih hbindings hrest (keeps_load hb hfirst hs)

end Binding

end

/-! ### The settings of a gate -/

namespace Config

/-- The integers of the settings that are 32-bit words. -/
def words (c : Config) : List Int :=
  [ c.policy.plannedRounds, c.policy.maxExtraRounds, c.wrkThreads, c.connections, c.workerThreads,
    c.proxyPort, c.backendPort, c.startupTimeoutS, c.warmupRequests, c.warmupConnectTimeoutS,
    c.warmupMaxTimeS ]

/-- The integers of the settings that are 32-bit words if there are any. -/
def optionalWords (c : Config) : List (Option Int) :=
  [c.policy.minPassRounds, c.pins.subject, c.pins.backend, c.pins.loadGenerator]

/-- Whether all integers of the settings are words of their width. -/
def Fits (c : Config) : Prop :=
  (∀ n ∈ c.words, inRange32 n = true)
    ∧ (∀ o ∈ c.optionalWords, ∀ n ∈ o, inRange32 n = true)
    ∧ inRange64 c.policy.memoryLimitKb = true

theorem fits_default : ({} : Config).Fits := by
  unfold Fits
  decide

theorem keeps_fits : ∀ b ∈ bindings, b.field.Keeps Fits := by
  simp only [bindings, List.forall_mem_cons, List.not_mem_nil, false_implies, implies_true,
    and_true]
  and_intros
  all_goals first
    | exact fun _ _ h => h
    | (intro c n hn h
       simp_all [Fits, words, optionalWords])

/-- Loaded settings satisfy the constraints, and their integers are words if those of the settings
they were loaded over are. -/
theorem fits_of_load {env : Environment} {base c : Config} (hbase : base.Fits)
    (h : load env base = .ok c) :
  c.Fits ∧ c.validate = .ok ()
  := by
  obtain ⟨c', hload, h⟩ := exists_ok_of_bind_eq_ok h
  obtain ⟨_, hvalid, h⟩ := exists_ok_of_bind_eq_ok h
  obtain rfl := Except.ok.inj h
  use Binding.keeps_loadAll keeps_fits hload hbase, hvalid

end Config

end PerfGate
