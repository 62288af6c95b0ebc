import PerfGate.Proofs.Config.Loaded
import PerfGate.Proofs.Environment
import PerfGate.Proofs.Numeral.Grammar

/-!
# What a variable changes

Each variable that is set gives its own field the value that it holds and changes no other field
(`Config.LoadedFrom`).  Settings are loaded exactly if every variable that is set holds a value of
its kind and the constraints hold of the outcome (`Config.load_eq_ok_iff`), and no other variables
matter (`Config.load_congr`).
-/

namespace PerfGate

open Binary64

/-! ### What a value means -/

/-- Whether a text is taken as it is. -/
def MeansText (t v : Text) : Prop := v = t

/-- Whether a text is the numeral of a 32-bit integer. -/
def MeansWord (t : Text) (n : Int) : Prop := Numeral.IsWhole t.trim n ∧ inRange32 n = true

/-- Whether a text is the numeral of a 64-bit integer. -/
def MeansWideWord (t : Text) (n : Int) : Prop := Numeral.IsWhole t.trim n ∧ inRange64 n = true

/-- Whether a text is the numeral of a 32-bit integer, which is then present. -/
def MeansSomeWord (t : Text) (o : Option Int) : Prop := ∃ n, o = some n ∧ MeansWord t n

/-- Whether a text is a numeral that is correctly rounded to a finite number. -/
def MeansNumber (t : Text) (x : Binary64) : Prop :=
  ∃ n, Binary64.Numeral.ofText? t.trim = some n ∧ InRange n.magnitude
    ∧ Rounds n.negative n.magnitude x

/-- Whether a text is the digit of a flag. -/
def MeansFlag (t : Text) (b : Bool) : Prop := t = Config.flagDigit b

section

variable (name : Text) {t : Text}

theorem readWideInteger_eq_ok_iff {n : Int} :
  readWideInteger name t = .ok n ↔ MeansWideWord t n
  := by
  rw [MeansWideWord, ← Numeral.integer?_eq_some_iff, readWideInteger]
  cases Numeral.integer? t with
  | none => simp
  | some k => simp

theorem readInteger_eq_ok_iff {n : Int} :
  readInteger name t = .ok n ↔ MeansWord t n
  := by
  have hwide : inRange32 n = true → inRange64 n = true := by
    simp only [inRange32, inRange64, Bool.and_eq_true, decide_eq_true_eq]
    omega
  constructor
  · intro h
    have hrange := inRange32_of_readInteger h
    obtain ⟨k, hk, h⟩ := exists_ok_of_bind_eq_ok h
    split at h
    · obtain rfl := Except.ok.inj h
      exact ⟨((readWideInteger_eq_ok_iff name).1 hk).1, hrange⟩
    · cases h
  · rintro ⟨hwhole, hrange⟩
    have hread : readWideInteger name t = .ok n :=
      (readWideInteger_eq_ok_iff name).2 ⟨hwhole, hwide hrange⟩
    rw [readInteger, hread]
    show (if inRange32 n then Except.ok n else _) = _
    rw [if_pos hrange]

theorem readNumber_eq_ok_iff {x : Binary64} :
  readNumber name t = .ok x ↔ MeansNumber t x
  := by
  rw [MeansNumber, ← ofNumeral?_eq_some_iff, readNumber, Numeral.float?]
  cases ofNumeral? t.trim with
  | none => simp
  | some y => simp

theorem toFlag_eq_ok_iff {b : Bool} :
  toFlag name t = .ok b ↔ MeansFlag t b
  := by
  unfold toFlag MeansFlag Config.flagDigit
  by_cases hone : t = ['1']
  · subst hone
    cases b <;> simp
  · by_cases hzero : t = ['0']
    · subst hzero
      cases b <;> simp
    · cases b <;> simp [hone, hzero]

end

/-! ### One variable -/

/-- What a variable leaves of a field: the value that it means, or what was there before if the
variable is unset or empty. -/
def Environment.Leaves {β : Type} (env : Environment) (name : Text) (Means : Text → β → Prop)
    (before after : β) : Prop :=
  (env.IsBlank name → after = before) ∧ ∀ t, env.HasText name t → Means t after

section

variable {σ : Type}

/-- Whether a field can be replaced by any value, and by its own without a change. -/
structure Field.IsLawful {β : Type} (f : Field σ β) : Prop where
  /-- What is put in is found again. -/
  get_set : ∀ s v, f.get (f.set s v) = v
  /-- Putting in what is there changes nothing. -/
  set_get : ∀ s, f.set s (f.get s) = s

namespace SettingField

/-- Whether the field under a setting is lawful. -/
def IsLawful : SettingField σ → Prop
  | .text f => f.IsLawful
  | .integer f => f.IsLawful
  | .wideInteger f => f.IsLawful
  | .optionalInteger f => f.IsLawful
  | .number f => f.IsLawful
  | .flag f => f.IsLawful

/-- Whether two settings have the same value in a field. -/
def SameIn (s s' : σ) : SettingField σ → Prop
  | .text f => f.get s' = f.get s
  | .integer f => f.get s' = f.get s
  | .wideInteger f => f.get s' = f.get s
  | .optionalInteger f => f.get s' = f.get s
  | .number f => f.get s' = f.get s
  | .flag f => f.get s' = f.get s

theorem SameIn.of_same {s s' s'' : σ} {field : SettingField σ} (h : SameIn s s' field)
    (h' : SameIn s s'' field) :
  SameIn s' s'' field
  := by
  cases field <;> exact Eq.trans h' (Eq.symm h)

/-- Whether a text means the value that settings have in a field. -/
def Means (t : Text) (s : σ) : SettingField σ → Prop
  | .text f => f.get s = t
  | .integer f => MeansWord t (f.get s)
  | .wideInteger f => MeansWideWord t (f.get s)
  | .optionalInteger f => MeansSomeWord t (f.get s)
  | .number f => MeansNumber t (f.get s)
  | .flag f => MeansFlag t (f.get s)

/-- Whether a text means any value of the kind of a field. -/
def Accepts (t : Text) : SettingField σ → Prop
  | .text _ => True
  | .integer _ => ∃ n, MeansWord t n
  | .wideInteger _ => ∃ n, MeansWideWord t n
  | .optionalInteger _ => ∃ n, MeansWord t n
  | .number _ => ∃ x, MeansNumber t x
  | .flag _ => ∃ b, MeansFlag t b

end SettingField

namespace Binding

/-- Whether a variable holds a value of its kind, if it is set. -/
def IsReadable (env : Environment) (b : Binding σ) : Prop :=
  ∀ t, env.HasText b.name t → b.field.Accepts t

/-- What a variable leaves of settings in its field: the value that it means, or what was there
before if it is unset or empty. -/
def Leaves (env : Environment) (s s' : σ) (b : Binding σ) : Prop :=
  (env.IsBlank b.name → b.field.SameIn s s') ∧ ∀ t, env.HasText b.name t → b.field.Means t s'

/-- The settings with the value of a variable put into its field, or the value before, if there is
no other. -/
def settle (env : Environment) (s : σ) (b : Binding σ) : σ :=
  match b.field with
  | .text f => f.set s ((env.value? b.name).getD (f.get s))
  | .integer f =>
    f.set s (((env.value? b.name).bind fun t => (readInteger b.name t).toOption).getD (f.get s))
  | .wideInteger f =>
    f.set s (((env.value? b.name).bind fun t => (readWideInteger b.name t).toOption).getD (f.get s))
  | .optionalInteger f =>
    f.set s (((env.value? b.name).bind fun t =>
      (readInteger b.name t).toOption.map some).getD (f.get s))
  | .number f =>
    f.set s (((env.value? b.name).bind fun t => (readNumber b.name t).toOption).getD (f.get s))
  | .flag f =>
    f.set s (((env.value? b.name).bind fun t => (toFlag b.name t).toOption).getD (f.get s))

end Binding

variable {env : Environment} {s s' : σ}

theorem eq_ok_iff_toOption {ε β : Type} {r : Except ε β} {v : β} (before : β) :
  r = .ok v ↔ (∃ w, r = .ok w) ∧ v = r.toOption.getD before
  := by
  cases r with
  | error e => simp
  | ok w => simp [Except.toOption, eq_comm]

theorem map_eq_ok_iff_toOption {ε β γ : Type} {r : Except ε β} {g : β → γ} {c : γ} (before : β) :
  r.map g = .ok c ↔ (∃ v, r = .ok v) ∧ c = g (r.toOption.getD before)
  := by
  cases r with
  | error e => simp [Except.map]
  | ok v => simp [Except.map, Except.toOption, eq_comm]

/-- A variable is loaded if it is readable, and its value is put into its field. -/
theorem Binding.load_eq_ok_iff {b : Binding σ} (hb : b.field.IsLawful) :
  load env s b = .ok s' ↔ b.IsReadable env ∧ s' = settle env s b
  := by
  obtain ⟨name, field⟩ := b
  unfold load IsReadable settle assign
  simp only [← Environment.value?_eq_some_iff]
  cases env.value? name with
  | none => cases field <;> simp [hb.set_get, eq_comm]
  | some t =>
    simp only [Option.some.injEq, forall_eq', Option.bind_some, Option.getD_some,
      SettingField.Accepts]
    cases field with
    | text f => simp [eq_comm]
    | integer f =>
      simp only [← readInteger_eq_ok_iff name]
      apply map_eq_ok_iff_toOption
    | wideInteger f =>
      simp only [← readWideInteger_eq_ok_iff name]
      apply map_eq_ok_iff_toOption
    | optionalInteger f =>
      simp only [← readInteger_eq_ok_iff name]
      cases readInteger name t with
      | error e => simp [Except.map]
      | ok n => simp [Except.map, Except.toOption, eq_comm]
    | number f =>
      simp only [← readNumber_eq_ok_iff name]
      apply map_eq_ok_iff_toOption
    | flag f =>
      simp only [← toFlag_eq_ok_iff name]
      apply map_eq_ok_iff_toOption

/-- A variable leaves settings in its field as it is loaded. -/
theorem Binding.leaves_iff {b : Binding σ} (hb : b.field.IsLawful) :
  b.Leaves env s s' ↔ b.IsReadable env ∧ b.field.SameIn (settle env s b) s'
  := by
  obtain ⟨name, field⟩ := b
  unfold Leaves IsReadable settle
  simp only [← Environment.value?_eq_some_iff, ← Environment.value?_eq_none_iff]
  cases env.value? name with
  | none => cases field <;> simp [SettingField.SameIn, hb.get_set]
  | some t =>
    simp only [reduceCtorEq, false_implies, true_and, Option.some.injEq, forall_eq',
      Option.bind_some, Option.getD_some, SettingField.Accepts, SettingField.Means]
    cases field with
    | text f => simp [SettingField.SameIn, hb.get_set]
    | integer f =>
      simp only [← readInteger_eq_ok_iff name, SettingField.SameIn, hb.get_set]
      apply eq_ok_iff_toOption
    | wideInteger f =>
      simp only [← readWideInteger_eq_ok_iff name, SettingField.SameIn, hb.get_set]
      apply eq_ok_iff_toOption
    | optionalInteger f =>
      simp only [MeansSomeWord, ← readInteger_eq_ok_iff name, SettingField.SameIn,
        hb.get_set]
      cases readInteger name t with
      | error e => simp
      | ok n => simp [Except.toOption, eq_comm]
    | number f =>
      simp only [← readNumber_eq_ok_iff name, SettingField.SameIn, hb.get_set]
      apply eq_ok_iff_toOption
    | flag f =>
      simp only [← toFlag_eq_ok_iff name, SettingField.SameIn, hb.get_set]
      apply eq_ok_iff_toOption

/-! ### A table of variables -/

/-- A table is loaded if all its variables are readable, and their values are put into their fields
in order. -/
theorem Binding.loadAll_eq_ok_iff {bindings : List (Binding σ)}
    (hbindings : ∀ b ∈ bindings, b.field.IsLawful) :
  loadAll env bindings s = .ok s' ↔
    (∀ b ∈ bindings, b.IsReadable env) ∧ s' = bindings.foldl (settle env) s
  := by
  induction bindings generalizing s with
  | nil => simp [loadAll, pure, Except.pure, eq_comm]
  | cons b bindings ih =>
    obtain ⟨hb, hbindings⟩ := List.forall_mem_cons.1 hbindings
    rw [List.forall_mem_cons, List.foldl_cons, and_assoc, ← ih hbindings]
    constructor
    · intro h
      rw [loadAll, List.foldlM_cons] at h
      obtain ⟨s₁, hfirst, hrest⟩ := exists_ok_of_bind_eq_ok h
      obtain ⟨hread, rfl⟩ := (load_eq_ok_iff hb).1 hfirst
      exact ⟨hread, hrest⟩
    · rintro ⟨hread, hrest⟩
      rw [loadAll, List.foldlM_cons, (load_eq_ok_iff hb).2 ⟨hread, rfl⟩]
      apply hrest

/-- Only the variables of a table are looked up. -/
theorem Binding.loadAll_congr {env' : Environment} {bindings : List (Binding σ)}
    (h : ∀ b ∈ bindings, env' b.name = env b.name) :
  loadAll env' bindings s = loadAll env bindings s
  := by
  induction bindings generalizing s with
  | nil => rfl
  | cons b bindings ih =>
    obtain ⟨hb, hbindings⟩ := List.forall_mem_cons.1 h
    have hload : load env' s b = load env s b := by
      unfold load Environment.value?
      rw [hb]
    rw [loadAll, loadAll, List.foldlM_cons, List.foldlM_cons, hload]
    congr 1
    funext s₁
    apply ih hbindings

end

namespace Config

theorem isLawful_bindings : ∀ b ∈ bindings, b.field.IsLawful := by
  simp only [bindings, List.forall_mem_cons, List.not_mem_nil, false_implies, implies_true,
    and_true]
  and_intros
  all_goals exact ⟨fun _ _ => rfl, fun _ => rfl⟩

/-- No variable overwrites what another one has put into its field. -/
theorem sameIn_foldl_settle (env : Environment) (base : Config) :
  ∀ b ∈ bindings, b.field.SameIn (b.settle env base) (bindings.foldl (Binding.settle env) base)
  := by
  simp only [bindings, List.forall_mem_cons, List.not_mem_nil, false_implies, implies_true,
    and_true]
  and_intros
  all_goals rfl

/-- What an environment makes of settings: each variable that is set gives its own field the value
that it means, and all else stays what it was. -/
structure LoadedFrom (env : Environment) (base c : Config) : Prop where
  baselineFile : env.Leaves "BASELINE_FILE".toList MeansText base.baselineFile c.baselineFile
  plannedRounds :
    env.Leaves "ROUNDS".toList MeansWord base.policy.plannedRounds c.policy.plannedRounds
  minPassRounds :
    env.Leaves "MIN_PASS_ROUNDS".toList MeansSomeWord base.policy.minPassRounds
      c.policy.minPassRounds
  minPassRatio :
    env.Leaves "MIN_PASS_RATIO".toList MeansNumber base.policy.minPassRatio c.policy.minPassRatio
  maxVariation :
    env.Leaves "MAX_CV_PERCENT".toList MeansNumber base.policy.maxVariation c.policy.maxVariation
  maxExtraRounds :
    env.Leaves "MAX_EXTRA_ROUNDS".toList MeansWord base.policy.maxExtraRounds
      c.policy.maxExtraRounds
  duration : env.Leaves "DURATION".toList MeansText base.policy.duration c.policy.duration
  memoryLimitKb :
    env.Leaves "RSS_LIMIT_KB".toList MeansWideWord base.policy.memoryLimitKb c.policy.memoryLimitKb
  outDir : env.Leaves "OUT_DIR".toList MeansText base.outDir c.outDir
  includeAliasRemap :
    env.Leaves "INCLUDE_ALIAS_REMAP_SCENARIO".toList MeansFlag base.includeAliasRemap
      c.includeAliasRemap
  autoPinCores : env.Leaves "AUTO_PIN_CORES".toList MeansFlag base.autoPinCores c.autoPinCores
  subjectCore : env.Leaves "PIN_PROXY_CORE".toList MeansSomeWord base.pins.subject c.pins.subject
  backendCore : env.Leaves "PIN_UPSTREAM_CORE".toList MeansSomeWord base.pins.backend c.pins.backend
  loadGeneratorCore :
    env.Leaves "PIN_WRK_CORE".toList MeansSomeWord base.pins.loadGenerator c.pins.loadGenerator
  subjectBin : env.Leaves "SUBJECT_BIN".toList MeansText base.subjectBin c.subjectBin
  subjectName : env.Leaves "SUBJECT_NAME".toList MeansText base.subjectName c.subjectName
  subjectConfig : env.Leaves "SUBJECT_CONFIG".toList MeansText base.subjectConfig c.subjectConfig
  simulatorBin : env.Leaves "MOCK_UPSTREAM_BIN".toList MeansText base.simulatorBin c.simulatorBin
  wrkBin : env.Leaves "WRK_BIN".toList MeansText base.wrkBin c.wrkBin
  curlBin : env.Leaves "CURL_BIN".toList MeansText base.curlBin c.curlBin
  wrkThreads : env.Leaves "WRK_THREADS".toList MeansWord base.wrkThreads c.wrkThreads
  connections : env.Leaves "CONNECTIONS".toList MeansWord base.connections c.connections
  workerThreads : env.Leaves "WORKER_THREADS".toList MeansWord base.workerThreads c.workerThreads
  wrkTimeout : env.Leaves "WRK_TIMEOUT".toList MeansText base.wrkTimeout c.wrkTimeout
  proxyPort : env.Leaves "PROXY_PORT".toList MeansWord base.proxyPort c.proxyPort
  backendPort : env.Leaves "UPSTREAM_PORT".toList MeansWord base.backendPort c.backendPort
  startupTimeoutS :
    env.Leaves "STARTUP_TIMEOUT_S".toList MeansWord base.startupTimeoutS c.startupTimeoutS
  warmupRequests :
    env.Leaves "WARMUP_REQUESTS".toList MeansWord base.warmupRequests c.warmupRequests
  backendTransport :
    env.Leaves "UPSTREAM_TRANSPORT".toList MeansText base.backendTransport c.backendTransport
  requireBackendH2 :
    env.Leaves "REQUIRE_UPSTREAM_H2".toList MeansFlag base.requireBackendH2 c.requireBackendH2
  mockScenario : env.Leaves "MOCK_SCENARIO".toList MeansText base.mockScenario c.mockScenario
  lockFile : env.Leaves "LOCK_FILE".toList MeansText base.lockFile c.lockFile
  reportStem : c.reportStem = base.reportStem
  warmupConnectTimeoutS : c.warmupConnectTimeoutS = base.warmupConnectTimeoutS
  warmupMaxTimeS : c.warmupMaxTimeS = base.warmupMaxTimeS

variable {env : Environment} {base c c' : Config}

/-- The fields of the settings are those of the variables, and three more. -/
theorem loadedFrom_iff :
  LoadedFrom env base c ↔
    (∀ b ∈ bindings, b.Leaves env base c) ∧ c.reportStem = base.reportStem
      ∧ c.warmupConnectTimeoutS = base.warmupConnectTimeoutS
      ∧ c.warmupMaxTimeS = base.warmupMaxTimeS
  := by
  simp only [bindings, List.forall_mem_cons, List.not_mem_nil, false_implies, implies_true,
    and_true]
  constructor
  · intro h
    refine ⟨?_, h.reportStem, h.warmupConnectTimeoutS, h.warmupMaxTimeS⟩
    exact ⟨h.baselineFile, h.plannedRounds, h.minPassRounds, h.minPassRatio, h.maxVariation,
      h.maxExtraRounds, h.duration, h.memoryLimitKb, h.outDir, h.includeAliasRemap,
      h.autoPinCores, h.subjectCore, h.backendCore, h.loadGeneratorCore, h.subjectBin,
      h.subjectName, h.subjectConfig, h.simulatorBin, h.wrkBin, h.curlBin, h.wrkThreads,
      h.connections, h.workerThreads, h.wrkTimeout, h.proxyPort, h.backendPort,
      h.startupTimeoutS, h.warmupRequests, h.backendTransport, h.requireBackendH2,
      h.mockScenario, h.lockFile⟩
  · rintro ⟨h, reportStem, warmupConnectTimeoutS, warmupMaxTimeS⟩
    obtain ⟨baselineFile, plannedRounds, minPassRounds, minPassRatio, maxVariation,
      maxExtraRounds, duration, memoryLimitKb, outDir, includeAliasRemap, autoPinCores,
      subjectCore, backendCore, loadGeneratorCore, subjectBin, subjectName, subjectConfig,
      simulatorBin, wrkBin, curlBin, wrkThreads, connections, workerThreads, wrkTimeout,
      proxyPort, backendPort, startupTimeoutS, warmupRequests, backendTransport,
      requireBackendH2, mockScenario, lockFile⟩ := h
    exact ⟨baselineFile, plannedRounds, minPassRounds, minPassRatio, maxVariation,
      maxExtraRounds, duration, memoryLimitKb, outDir, includeAliasRemap, autoPinCores,
      subjectCore, backendCore, loadGeneratorCore, subjectBin, subjectName, subjectConfig,
      simulatorBin, wrkBin, curlBin, wrkThreads, connections, workerThreads, wrkTimeout,
      proxyPort, backendPort, startupTimeoutS, warmupRequests, backendTransport,
      requireBackendH2, mockScenario, lockFile, reportStem, warmupConnectTimeoutS,
      warmupMaxTimeS⟩

/-- Settings are the same if they are in the fields of all variables and in three more. -/
theorem eq_of_sameIn (h : ∀ b ∈ bindings, b.field.SameIn c c')
    (hstem : c'.reportStem = c.reportStem)
    (hconnect : c'.warmupConnectTimeoutS = c.warmupConnectTimeoutS)
    (hmax : c'.warmupMaxTimeS = c.warmupMaxTimeS) :
  c' = c
  := by
  simp only [bindings, List.forall_mem_cons, SettingField.SameIn] at h
  obtain ⟨⟨⟩, _, _, _, _, _, ⟨⟩⟩ := c
  obtain ⟨⟨⟩, _, _, _, _, _, ⟨⟩⟩ := c'
  simp_all

/-- What an environment makes of settings is determined, if all variables that are set are
readable. -/
theorem loadedFrom_iff_eq :
  LoadedFrom env base c ↔
    (∀ b ∈ bindings, b.IsReadable env) ∧ c = bindings.foldl (Binding.settle env) base
  := by
  have hsettled := sameIn_foldl_settle env base
  rw [loadedFrom_iff]
  constructor
  · rintro ⟨hleaves, hstem, hconnect, hmax⟩
    have hleaves : ∀ b ∈ bindings, b.IsReadable env ∧ b.field.SameIn (b.settle env base) c :=
      fun b hb => (Binding.leaves_iff (isLawful_bindings b hb)).1 (hleaves b hb)
    have hsame : ∀ b ∈ bindings,
        b.field.SameIn (bindings.foldl (Binding.settle env) base) c :=
      fun b hb => (hsettled b hb).of_same (hleaves b hb).2
    constructor
    · intro b hb
      apply (hleaves b hb).1
    · apply eq_of_sameIn hsame
      -- No variable touches the last three fields.
      · apply hstem
      · apply hconnect
      · apply hmax
  · rintro ⟨hread, rfl⟩
    refine ⟨?_, rfl, rfl, rfl⟩
    intro b hb
    apply (Binding.leaves_iff (isLawful_bindings b hb)).2
    exact ⟨hread b hb, hsettled b hb⟩

/-- Settings are loaded exactly if they are what the environment makes of the given ones, and the
constraints hold of them. -/
theorem load_eq_ok_iff :
  load env base = .ok c ↔ LoadedFrom env base c ∧ c.validate = .ok ()
  := by
  rw [loadedFrom_iff_eq, ← Binding.loadAll_eq_ok_iff isLawful_bindings]
  constructor
  · intro h
    obtain ⟨c', hload, h⟩ := exists_ok_of_bind_eq_ok h
    obtain ⟨_, hvalid, h⟩ := exists_ok_of_bind_eq_ok h
    obtain rfl := Except.ok.inj h
    exact ⟨hload, hvalid⟩
  · rintro ⟨hload, hvalid⟩
    rw [load, hload]
    show (c.validate >>= fun _ => pure c) = _
    rw [hvalid]
    rfl

/-- Variables that have no field do not matter. -/
theorem load_congr {env' : Environment} (h : ∀ b ∈ bindings, env' b.name = env b.name) :
  load env' base = load env base
  := by
  unfold load
  rw [Binding.loadAll_congr h]

/-- Settings are not loaded exactly if a variable holds no value of its kind, or the constraints do
not hold of what the environment makes of the settings. -/
theorem exists_load_eq_error_iff :
  (∃ e, load env base = .error e) ↔
    (∃ b ∈ bindings, ¬b.IsReadable env) ∨ ∃ c e, LoadedFrom env base c ∧ c.validate = .error e
  := by
  constructor
  · rintro ⟨e, herror⟩
    rw [or_iff_not_imp_left]
    intro hread
    push Not at hread
    let settled := bindings.foldl (Binding.settle env) base
    have hfrom : LoadedFrom env base settled := loadedFrom_iff_eq.2 ⟨hread, rfl⟩
    use settled
    cases hvalid : settled.validate with
    | ok _ =>
      have hload : load env base = .ok settled := load_eq_ok_iff.2 ⟨hfrom, hvalid⟩
      rw [herror] at hload
      cases hload
    | error e' => use e', hfrom
  · intro h
    cases hload : load env base with
    | error e => use e
    | ok c =>
      obtain ⟨hfrom, hvalid⟩ := load_eq_ok_iff.1 hload
      obtain ⟨hread, rfl⟩ := loadedFrom_iff_eq.1 hfrom
      obtain ⟨b, hb, hunreadable⟩ | ⟨c, e, hfrom, hinvalid⟩ := h
      · exact absurd (hread b hb) hunreadable
      · obtain ⟨-, rfl⟩ := loadedFrom_iff_eq.1 hfrom
        rw [hvalid] at hinvalid
        cases hinvalid

/-- Loading touches only what is set: settings that are loaded have in each field the value of its
variable, or what was there before, and keep the constraints.  There is a setup error if a variable
is malformed or a constraint is violated, and only then.  No other variables matter. -/
theorem load_touches_only_what_is_set (env : Environment) (base : Config) :
  (∀ c, load env base = .ok c ↔ LoadedFrom env base c ∧ c.validate = .ok ())
    ∧ ((∃ e, load env base = .error e ∧ (RunError.setting e).kind = .setup) ↔
        (∃ b ∈ bindings, ¬b.IsReadable env) ∨ ∃ c e, LoadedFrom env base c ∧ c.validate = .error e)
    ∧ ∀ env' : Environment, (∀ b ∈ bindings, env' b.name = env b.name) →
        load env' base = load env base
  := by
  refine ⟨?_, ?_, ?_⟩
  · intro c
    apply load_eq_ok_iff
  · have hkind : ∀ e, (RunError.setting e).kind = .setup := fun _ => rfl
    simp only [hkind, and_true]
    apply exists_load_eq_error_iff
  · intro env' h
    apply load_congr h

/-- An environment with a number of rounds, and with variables that are empty or begin with a NUL. -/
def sparse : Environment := fun name =>
  [("ROUNDS".toList, ['5']), ("DURATION".toList, []), ("WRK_THREADS".toList, ['\x00', '9'])].lookup name

/-- The same in some home. -/
def sparseAtHome : Environment := fun name =>
  if name = "HOME".toList then some ['/'] else sparse name

/-- The settings of that environment. -/
def sparseConfig : Config := { policy := { Policy.standard with plannedRounds := 5 } }

/-- Five rounds are planned if that is set, in any home; an empty duration leaves the one before, and
so does a number of threads that begins with a NUL. -/
theorem load_touches_only_what_is_set_sparse :
  LoadedFrom sparse {} sparseConfig ∧ sparse.IsBlank "DURATION".toList
    ∧ sparseConfig.policy.duration = "10s".toList ∧ sparse.IsBlank "WRK_THREADS".toList
    ∧ load sparseAtHome {} = .ok sparseConfig
  := by
  obtain ⟨hload, -, hother⟩ := load_touches_only_what_is_set sparse {}
  have hc : load sparse {} = .ok sparseConfig := by decide +kernel
  have henv : ∀ b ∈ bindings, sparseAtHome b.name = sparse b.name := by decide +kernel
  exact ⟨((hload sparseConfig).1 hc).1, .inr (.inl rfl), rfl, .inr (.inr ⟨_, rfl⟩),
    (hother sparseAtHome henv).trans hc⟩

end Config

end PerfGate
