import PerfGate.Proofs.Environment
import PerfGate.Proofs.Live.Tenure

/-!
# The ports of a live run

A service is told its port as a number of any size, the backend simulator by its environment and the
service under test by its configuration, and a wait looks at the low 16 bits of that number.  In
every run each look at a port is at the port that the service that was started last was told, so far
as that number is one of a port: a number outside of 16 bits is looked at as another one
(`Errand.looks_where_told`).
-/

namespace PerfGate

/-- The names of the variables of a backend simulator hold no equals sign. -/
theorem Scenario.equals_notMem_of_mem_backendVariables {s : Scenario} {c : Config}
    {o : Text × Text} (h : o ∈ s.backendVariables c) :
  '=' ∉ o.1
  := by
  have hnames : (s.backendVariables c).map Prod.fst =
      ["MOCK_MODE", "MOCK_TRANSPORT", "MOCK_SCENARIO", "UPSTREAM_PORT"].map String.toList := rfl
  have hall : ∀ name ∈ ["MOCK_MODE", "MOCK_TRANSPORT", "MOCK_SCENARIO", "UPSTREAM_PORT"].map
      String.toList, '=' ∉ name := by decide
  apply hall
  rw [← hnames]
  apply List.mem_map_of_mem h

namespace Live

open Protocol

/-! ### What services are told -/

/-- The start of a service. -/
structure Start where
  /-- What was started. -/
  command : Command
  /-- What had been written to the configuration of the service under test. -/
  written : Option Text

/-- Whether a service is told a port by its start: the backend simulator by its environment, and the
service under test by its configuration. -/
def Start.Tells (c : Config) (start : Start) (port : Int) : Prop :=
  start.command.argv = [c.simulatorBin] ∧ port = c.backendPort
      ∧ Environment.ofEntries start.command.environment "UPSTREAM_PORT".toList =
        some (Decimal.signed port)
    ∨ start.command.argv = [c.subjectBin] ∧ port = c.proxyPort
      ∧ ∃ s : Scenario, start.written = some (s.subjectConfig c)

/-- What the services of a run were told so far. -/
structure Told where
  /-- What was written last to the configuration of the service under test. -/
  written : Option Text := none
  /-- The last start of a service. -/
  start : Option Start := none

namespace Told

/-- What services were told behind an exchange. -/
def next (c : Config) (s : Told) : Exchange → Told
  | ⟨.writeFile path content, true⟩ =>
    if path = c.subjectConfig then { s with written := some content } else s
  | ⟨.startLogged command _, .ok _⟩ => { s with start := some { command, written := s.written } }
  | _ => s

/-- What services were told behind some exchanges. -/
def behind (c : Config) (es : List Exchange) : Told := es.foldl (next c) {}

/-- Whether a look at a port is one at the port that the service started last was told. -/
def Allows (c : Config) (s : Told) : Request → Prop
  | .connects address port => address = loopback
    ∧ ∃ start told, s.start = some start ∧ start.Tells c told ∧ port = portNumber told
  | _ => True

end Told

/-- The looks at ports that a run keeps to. -/
def ports (c : Config) : Protocol Told where
  allows := Told.Allows c
  leads s e s' := s' = s.next c e

variable {c : Config} {s s' : Told} {start : Start} {told : Int}

theorem passes_ports (c : Config) (s : Told) (es : List Exchange) :
  (ports c).Passes s es (es.foldl (Told.next c) s)
  := by
  induction es generalizing s with
  | nil => apply Passes.nil
  | cons e es ih => apply Passes.cons rfl (ih _)

/-- A number is the port that it is looked at as if it has 16 bits. -/
theorem portNumber_eq_iff (port : Int) :
  (portNumber port : Int) = port ↔ 0 ≤ port ∧ port < 65536
  := by
  rw [portNumber, Int.toNat_of_nonneg (Int.emod_nonneg port (by decide)), Int.emod_eq_iff (by decide)]
  simp

/-! ### Requests -/

/-- Whatever looks at no port is allowed. -/
theorem bears_any (c : Config) :
  (ports c).Bears (fun q => ∀ address port, q ≠ .connects address port) fun _ => True
  := by
  intro q hq s _
  have hallows : s.Allows c q := by
    cases q
    case connects address port => exact absurd rfl (hq address port)
    all_goals trivial
  apply keeps_single q hallows
  intro _ _ _
  trivial

theorem quiet_any (c : Config) :
  (ports c).Bears (fun q => q.isQuiet = true) fun _ => True
  := by
  apply (bears_any c).mono
  rintro q hq address port rfl
  cases hq

/-- While a service is the last one that was started, looks are at the port that it was told. -/
theorem bears_started (htells : start.Tells c told) :
  (ports c).Bears
    (Request.KeepsTo (fun _ => True) fun address port =>
      address = loopback ∧ port = portNumber told)
    (fun s => s.start = some start)
  := by
  intro q hq s hs
  have hallows : s.Allows c q := by
    cases q
    case connects address port => exact ⟨hq.1, start, told, hs, htells, hq.2⟩
    all_goals trivial
  apply keeps_single q hallows
  rintro a _ rfl
  cases q
  case writeFile path content =>
    rw [Told.next.eq_def]
    cases a with
    | false => apply hs
    | true =>
      dsimp only
      split
      · apply hs
      · apply hs
  all_goals first | exact hs | exact nomatch hq

/-! ### Services -/

namespace Told

/-- What is done with a service is done behind a start that told it a port. -/
theorem keeps_hold {α : Type} {service : Service} {body : Owner → Dialogue α} (told : Int)
    (hargv : service.argv ≠ []) (hlog : service.log ≠ [])
    (htells : ∀ entries, Start.Tells c
      ⟨{ argv := service.argv, environment := Environment.override entries service.overrides,
          core := service.core }, s.written⟩ told)
    (hbody : ∀ start, start.Tells c told → ∀ o s', s'.start = some start →
      (ports c).Keeps s' (fun _ _ => True) (fun _ _ => True) (body o)) :
  (ports c).Keeps s (fun _ _ => True) (fun _ _ => True) (Owner.hold service body)
  := by
  have henvironment : (ports c).Maintains (· = s) (Dialogue.single .environment) := by
    rintro _ rfl
    apply keeps_single .environment trivial
    rintro _ _ rfl
    rfl
  have hstarted : ∀ (pid : Pid) s', (∃ start, start.Tells c told ∧ s'.start = some start) →
      (ports c).Keeps s' (fun _ _ => True) (fun _ _ => True) (body { child := some pid }) := by
    rintro pid s' ⟨start, htells, hs'⟩
    apply hbody start htells _ s' hs'
  apply Protocol.keeps_hold hargv hlog henvironment rfl (fun _ _ => trivial) _ hstarted
  · intro pid s' _
    apply maintains_terminate (quiet_any c) _ s' trivial
  · rintro entries _ rfl
    apply keeps_single (.startLogged _ service.log) trivial
    rintro answer _ rfl
    cases answer with
    | ok pid => exact ⟨_, htells entries, rfl⟩
    | error why => trivial

section

variable {b : Bench Dialogue} (hconfig : b.subjectConfig.target = b.config.subjectConfig)
  (hload : ∀ start told, start.Tells b.config told → ∀ plan,
    (ports b.config).Maintains (fun s => s.start = some start) (b.load plan))

include hconfig hload

/-- The service under test finds its port in the configuration that was written for it. -/
theorem keeps_measureSubject (s : Told) (sc : Scenario) :
  (ports b.config).Keeps s (fun _ _ => True) (fun _ _ => True) (b.measureSubject sc)
  := by
  rw [Bench.measureSubject_eq]
  have hwrite : (ports b.config).Keeps s
      (fun _ s' => s'.written = some (sc.subjectConfig b.config)) (fun _ _ => True)
      (b.subjectConfig.write (sc.subjectConfig b.config)) := by
    apply keeps_single_bind (.writeFile b.subjectConfig.target _) trivial
    rintro written _ rfl
    cases written with
    | false => apply keeps_fail trivial
    | true =>
      apply keeps_pure
      exact congrArg Told.written (if_pos hconfig)
  apply hwrite.bind
  intro _ s' hs'
  apply keeps_hold b.config.proxyPort (List.cons_ne_nil _ _)
    (Path.join_ne_nil (List.cons_ne_nil _ _))
  · intro entries
    exact .inr ⟨rfl, rfl, sc, hs'⟩
  · intro start htells o s₁ hs₁
    apply (maintains_measured (bears_started htells) b ⟨rfl, rfl⟩ (hload start _ htells) sc o s₁
      hs₁).mono
    · intro _ _ _
      trivial
    · intro _ _ _
      trivial

/-- The backend simulator finds its port in its environment. -/
theorem maintains_measure (sc : Scenario) :
  (ports b.config).Maintains (fun _ => True) (b.measure sc)
  := by
  intro s _
  apply keeps_hold b.config.backendPort (List.cons_ne_nil _ _)
    (Path.join_ne_nil (List.cons_ne_nil _ _))
  · intro entries
    refine .inl ⟨rfl, rfl, ?_⟩
    apply Environment.ofEntries_override (fun _ => Scenario.equals_notMem_of_mem_backendVariables)
      (by decide) rfl
  · intro start htells o s₁ hs₁
    have hawaited : (ports b.config).Maintains (fun s => s.start = some start)
        (awaitPort loopback b.config.backendPort b.startupMs) :=
      maintains_awaitPort (bears_started htells) ⟨rfl, rfl⟩ _
    apply hawaited.keeps_bind hs₁ (fun _ _ _ => trivial)
    intro answered s₂ _
    split
    · apply maintains_failShowingLog_bind (quiet_any _) _ _ _ _ s₂ trivial
    · apply keeps_measureSubject hconfig hload

end

end Told

/-! ### Whole runs -/

/-- Outside of its scenarios a run looks at no port. -/
theorem hosts_any (c : Config) :
  (ports c).Hosts c (fun _ => True) (fun _ _ => True)
  where
  quiet := quiet_any c
  makeDirectory template s _ := by
    apply keeps_single (.makeDirectory template) trivial
    intro made _ _
    cases made <;> trivial
  removeTree dir := bears_any c (.removeTree dir) nofun
  keepsTo dir := by
    apply (bears_any c).mono
    rintro q hq address port rfl
    apply hq
  copyFile dir source target := bears_any c (.copyFile source target) nofun
  remove dir path := bears_any c (.remove path) nofun
  measure scenarios pins dir k hk s := by
    apply Told.maintains_measure (b := bench c scenarios pins dir k) hk
    intro start told htells plan
    apply maintains_runLoad (bears_started htells) _ trivial

theorem Told.maintains_withLock {α : Type} {path : Text} {body : Dialogue α}
    (hbody : (ports c).Maintains (fun _ => True) body) :
  (ports c).Maintains (fun _ => True) (withLock path body)
  := by
  apply Protocol.maintains_withLock _ (fun _ => hbody)
  · intro lock
    apply bears_any c (.releaseLock lock) nofun
  · intro s _
    apply keeps_single (.takeLock path) trivial
    intro taken _ _
    cases taken <;> trivial

theorem Told.maintains_runLeg {leg : Config}
    (hrun : (ports c).Maintains (fun _ => True) (gateUnderLock leg)) (name : Text) :
  (ports c).Maintains (fun _ => True) (DualGate.runLeg gateUnderLock leg name)
  := Protocol.maintains_runLeg hrun fun source => bears_any c (.copyFile source _) nofun

theorem Errand.maintains_run (e : Errand) :
  (ports e.config).Maintains (fun _ => True) e.run
  := by
  cases e with
  | task t =>
    cases t with
    | gate c => apply (Told.maintains_withLock (hosts_any c).gateUnderLock).map
    | recut c target => apply (Told.maintains_withLock ((hosts_any c).recutUnderLock target)).map
  | dual d =>
    -- the legs have the ports, programs and configuration of the whole
    have hpinned : (ports d.base).Maintains (fun _ => True) (gateUnderLock d.pinnedLeg) :=
      (hosts_any d.pinnedLeg).gateUnderLock
    have hunpinned : (ports d.base).Maintains (fun _ => True) (gateUnderLock d.unpinnedLeg) :=
      (hosts_any d.unpinnedLeg).gateUnderLock
    apply Maintains.map
    apply (maintains_captureOrigin (quiet_any d.base)).bind
    intro origin
    rw [DualGate.run_eq_withLock]
    apply Told.maintains_withLock
    apply maintains_runUnderLock (quiet_any d.base) (Told.maintains_runLeg hunpinned _)
      (Told.maintains_runLeg hpinned _)
    intro text
    apply bears_any d.base (.writeFile _ text) nofun

/-! ### Looks at ports -/

/-- Whether a request is a look at a local port. -/
def isLookAt (port : Nat) : Request → Bool
  | .connects address port' => address == loopback && port' == port
  | _ => false

/-- A look that a calm host sees may be asked for. -/
theorem Errand.exists_asks (e : Errand) (port : Nat)
    (h : (e.run.play Request.calm).1.any (isLookAt port ·.request) = true) :
  ∃ es, e.run.Asks es (.connects loopback port)
  := by
  obtain ⟨es, q, hasks, hlook⟩ := Dialogue.exists_asks_of_play h
  use es
  cases q
  case connects address port' =>
    obtain ⟨haddress, hport⟩ := Bool.and_eq_true_iff.1 hlook
    rw [beq_iff_eq] at haddress hport
    rw [← haddress, ← hport]
    apply hasks
  all_goals cases hlook

/-- Each look at a port is allowed behind what the services were told. -/
theorem Errand.allows_of_asks (e : Errand) {es : List Exchange} {q : Request}
    (hasks : e.run.Asks es q) :
  (Told.behind e.config es).Allows e.config q
  := (e.maintains_run {} trivial).allows_of_asks hasks (passes_ports e.config {} es)

/-- Whatever a gate, a recut or a dual gate is answered, each look at a port is a local one, at the
low 16 bits of the number that the service started last was told: the configured number, if and only
if it is one of 16 bits. -/
theorem Errand.looks_where_told (e : Errand) {es : List Exchange} {address : Text} {port : Nat}
    (hasks : e.run.Asks es (.connects address port)) :
  address = loopback ∧ ∃ start told, (Told.behind e.config es).start = some start
    ∧ start.Tells e.config told ∧ port = portNumber told
    ∧ ((port : Int) = told ↔ 0 ≤ told ∧ told < 65536)
  := by
  obtain ⟨haddress, start, told, hstart, htells, rfl⟩ := e.allows_of_asks hasks
  use haddress, start, told, hstart, htells, rfl
  apply portNumber_eq_iff

/-- A recut with the standard settings looks at the port of the service under test. -/
theorem Errand.looks_where_told_standard :
  ∃ es start, (Errand.task (.recut {} "sheet.md".toList)).run.Asks es (.connects loopback 18080)
    ∧ (Told.behind {} es).start = some start ∧ start.Tells {} 18080
  := by
  obtain ⟨es, hasks⟩ := Errand.exists_asks (.task (.recut {} "sheet.md".toList)) 18080
    (by decide +kernel)
  obtain ⟨-, start, told, hstart, htells, hport, -⟩ := Errand.looks_where_told _ hasks
  use es, start, hasks, hstart
  rcases htells with ⟨-, rfl, -⟩ | ⟨hargv, rfl, hwritten⟩
  · exact absurd hport (by decide)
  · exact .inr ⟨hargv, rfl, hwritten⟩

/-- An environment with a port that has more than 16 bits. -/
def highPort : Environment := .ofEntries ["PROXY_PORT=70000".toList]

/-- The settings of that environment. -/
def highPortConfig : Config where
  proxyPort := 70000

/-- The settings are accepted, the service under test is told the port 70000, and the port 4464 is
looked at. -/
theorem Errand.asks_of_highPort :
  Config.load highPort {} = .ok highPortConfig
    ∧ ∃ es start, (Errand.task (.recut highPortConfig "sheet.md".toList)).run.Asks es
        (.connects loopback 4464)
      ∧ (Told.behind highPortConfig es).start = some start ∧ start.Tells highPortConfig 70000
  := by
  use by decide +kernel
  obtain ⟨es, hasks⟩ := Errand.exists_asks
    (.task (.recut highPortConfig "sheet.md".toList)) 4464 (by decide +kernel)
  obtain ⟨-, start, told, hstart, htells, hport⟩ := Errand.allows_of_asks _ hasks
  use es, start, hasks, hstart
  rcases htells with ⟨-, rfl, -⟩ | ⟨hargv, rfl, hwritten⟩
  · exact absurd hport (by decide)
  · exact .inr ⟨hargv, rfl, hwritten⟩

end Live

end PerfGate
