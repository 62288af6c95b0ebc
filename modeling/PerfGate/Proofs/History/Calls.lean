import Mathlib.Data.List.Basic
import Mathlib.Tactic.Use
import PerfGate.Proofs.History

/-!
# Calls on a kept history

The owner of a history records rounds and outcomes on it, one call after the other, and may go on
behind a call that failed.  A call works in place: it changes one track after the other, and where
it stops with an error it leaves what it has changed until then.  All the same a failed call
changes nothing (`Call.on_eq`), because a round is looked over before the first change.  So a kept
history holds what the calls that succeeded brought, and nothing else (`behind_agrees`).
-/

namespace PerfGate

namespace History

variable {α : Type}

/-! ### Calls in place -/

/-- An operation on a kept history: it can stop with an error, and then leaves the history as it
is at that point. -/
abbrev InPlace (α : Type) := ExceptT RoundError (StateM (History α))

/-- Stops with an error if the round lacks one of the scenarios. -/
def lookOver (index : Int) (round : Round α) (todo : List ScenarioName) : InPlace α Unit :=
  todo.forM fun s => unless Table.has s round do throw (.sampleMissing index s)

/-- Adds the samples of a round, one track after the other. -/
def addSamples (index : Int) (round : Round α) (todo : List ScenarioName) : InPlace α Unit :=
  todo.forM fun s => modify fun h => { h with tracks := addSample index round h.tracks s }

/-- Stops with an error if the history has no track of the scenario. -/
def lookFor (s : ScenarioName) : InPlace α Unit := do
  unless Table.has s (← get).tracks do throw (.outcomeOfUnknown s)

/-- A call of the owner of a history. -/
inductive Call (α : Type) where
  /-- Records a round under an index. -/
  | record (index : Int) (round : Round α)
  /-- Records an outcome of a scenario. -/
  | addOutcome (s : ScenarioName) (pass : Bool)

namespace Call

/-- What a call does to the history. -/
def make : Call α → InPlace α Unit
  | record index round => do
    let scenarios := (← get).scenarios
    lookOver index round scenarios
    addSamples index round scenarios
    modify fun h => { h with rounds := h.rounds + 1 }
  | addOutcome s pass => do
    lookFor s
    modify fun h => { h with
      tracks := Table.modify s (fun t => { t with outcomes := t.outcomes ++ [pass] }) h.tracks }

/-- How a call on a history ends, and the history behind it. -/
def on (c : Call α) (h : History α) : Except RoundError Unit × History α := c.make.run.run h

/-- The history that a call asks for, if it can be had. -/
def answer (h : History α) : Call α → Except RoundError (History α)
  | record index round => h.record index round
  | addOutcome s pass => h.addOutcome s pass

end Call

theorem run_bind {β γ : Type} (x : InPlace α β) (f : β → InPlace α γ) (h : History α) :
  (x >>= f).run.run h =
    match x.run.run h with
    | (.ok b, h') => (f b).run.run h'
    | (.error e, h') => (.error e, h')
  := by
  rw [ExceptT.run_bind, StateT.run_bind]
  obtain ⟨r, h'⟩ := x.run.run h
  cases r with
  | ok b => rfl
  | error e => rfl

theorem run_lookOver (index : Int) (round : Round α) (todo : List ScenarioName) (h : History α) :
  (lookOver index round todo).run.run h =
    match firstLacking? round todo with
    | some s => (.error (.sampleMissing index s), h)
    | none => (.ok (), h)
  := by
  induction todo with
  | nil => rfl
  | cons s todo ih =>
    have hcons : lookOver index round (s :: todo) =
        (unless Table.has s round do throw (.sampleMissing index s) : InPlace α Unit) >>=
          fun _ => lookOver index round todo := rfl
    rw [hcons, run_bind]
    by_cases hs : Table.has s round = true
    · have hhead : firstLacking? round (s :: todo) = firstLacking? round todo := by
        simp [firstLacking?, hs]
      rw [hhead, ← ih, hs]
      rfl
    · have hhead : firstLacking? round (s :: todo) = some s := by
        simp [firstLacking?, hs]
      rw [hhead, Bool.eq_false_iff.2 hs]
      rfl

theorem run_addSamples (index : Int) (round : Round α) (todo : List ScenarioName) (h : History α) :
  (addSamples index round todo).run.run h =
    (.ok (), { h with tracks := todo.foldl (addSample index round) h.tracks })
  := by
  induction todo generalizing h with
  | nil => rfl
  | cons s todo ih =>
    rw [List.foldl_cons]
    apply ih { h with tracks := addSample index round h.tracks s }

theorem run_lookFor (s : ScenarioName) (h : History α) :
  (lookFor s).run.run h =
    if Table.has s h.tracks then (.ok (), h) else (.error (.outcomeOfUnknown s), h)
  := by
  have hrun : (lookFor s).run.run h =
      (unless Table.has s h.tracks do throw (.outcomeOfUnknown s) : InPlace α Unit).run.run h := rfl
  rw [hrun]
  cases Table.has s h.tracks with
  | true => rfl
  | false => rfl

/-- A call that can be answered leaves the history that it asks for; any other one stops with the
error and leaves the history that it found. -/
theorem Call.on_eq (c : Call α) (h : History α) :
  c.on h =
    match c.answer h with
    | .ok h' => (.ok (), h')
    | .error e => (.error e, h)
  := by
  cases c with
  | record index round =>
    have hrun : (record index round).on h =
        (do lookOver index round h.scenarios
            addSamples index round h.scenarios
            modify fun h => { h with rounds := h.rounds + 1 } : InPlace α Unit).run.run h := rfl
    rw [hrun, run_bind, run_lookOver, answer, History.record, ← firstLacking?]
    cases firstLacking? round h.scenarios with
    | some s => rfl
    | none =>
      dsimp only
      rw [run_bind, run_addSamples]
      rfl
  | addOutcome s pass =>
    have hrun : (addOutcome s pass).on h =
        (lookFor s >>= fun _ => modify fun h => { h with
          tracks := Table.modify s (fun t => { t with outcomes := t.outcomes ++ [pass] }) h.tracks } :
            InPlace α Unit).run.run h := rfl
    rw [hrun, run_bind, run_lookFor, answer, History.addOutcome]
    cases Table.has s h.tracks with
    | true => rfl
    | false => rfl

/-! ### What calls bring -/

namespace Call

/-- The round that a call brings, under its index. -/
def entry? : Call α → Option (Int × Round α)
  | record index round => some (index, round)
  | addOutcome _ _ => none

/-- The outcome of a scenario that a call brings. -/
def outcomeOf? (s : ScenarioName) : Call α → Option Bool
  | record _ _ => none
  | addOutcome n pass => if n = s then some pass else none

end Call

/-- The rounds that calls bring, each under its index. -/
def entriesOf (calls : List (Call α)) : List (Int × Round α) := calls.filterMap Call.entry?

/-- The outcomes of a scenario that calls bring. -/
def outcomesOf (calls : List (Call α)) (s : ScenarioName) : List Bool :=
  calls.filterMap (Call.outcomeOf? s)

theorem entriesOf_cons (c : Call α) (calls : List (Call α)) :
  entriesOf (c :: calls) = entriesOf [c] ++ entriesOf calls
  := List.filterMap_append (l := [c])

theorem outcomesOf_cons (c : Call α) (calls : List (Call α)) (s : ScenarioName) :
  outcomesOf (c :: calls) s = outcomesOf [c] s ++ outcomesOf calls s
  := List.filterMap_append (l := [c])

/-- The history behind calls that are made one after the other. -/
def behind (h : History α) (calls : List (Call α)) : History α :=
  calls.foldl (fun h c => (c.on h).2) h

/-- Those of the calls that succeed when all are made one after the other. -/
def successes (h : History α) : List (Call α) → List (Call α)
  | [] => []
  | c :: calls =>
    match c.on h with
    | (.ok (), h') => c :: successes h' calls
    | (.error _, h') => successes h' calls

variable {h : History α} {scenarios : List ScenarioName} {entries : List (Int × Round α)}
  {outcomes : ScenarioName → List Bool}

/-- An outcome of a scenario without a track is refused. -/
theorem Holds.addOutcome_error (hh : h.Holds scenarios entries outcomes) {s : ScenarioName}
    (hs : s ∉ scenarios) (pass : Bool) :
  h.addOutcome s pass = .error (.outcomeOfUnknown s)
  := by
  have hhas : ¬Table.has s h.tracks = true := by
    rw [Table.has, hh.get?_tracks_foreign s hs]
    exact Bool.false_ne_true
  rw [History.addOutcome, if_neg hhas]

/-- A call on a history either succeeds, and the history then holds what the call brings besides,
or it fails, and the history is what it was. -/
theorem Holds.on_cases (hh : h.Holds scenarios entries outcomes) (hnodup : scenarios.Nodup)
    (c : Call α) :
  (∃ h', c.on h = (.ok (), h')
      ∧ h'.Holds scenarios (entries ++ entriesOf [c]) (fun s => outcomes s ++ outcomesOf [c] s)
      ∧ ∀ entry ∈ entriesOf [c], Covers entry.2 scenarios)
    ∨ ∃ e, c.on h = (.error e, h)
  := by
  rw [Call.on_eq]
  cases c with
  | record index round =>
    cases hlack : firstLacking? round scenarios with
    | some s =>
      right
      use .sampleMissing index s
      rw [Call.answer, hh.record_error index hlack]
    | none =>
      left
      have hround : Covers round scenarios := firstLacking?_eq_none_iff.1 hlack
      obtain ⟨h', hrecord, hh'⟩ := hh.record hnodup index hround
      refine ⟨h', ?_, ?_, ?_⟩
      · rw [Call.answer, hrecord]
      · have hnone : ∀ n, outcomesOf [.record index round] n = [] := fun _ => rfl
        simp only [hnone, List.append_nil]
        apply hh'
      · intro entry hentry
        obtain rfl : entry = (index, round) := List.mem_singleton.1 hentry
        apply hround
  | addOutcome s pass =>
    by_cases hs : s ∈ scenarios
    · left
      obtain ⟨h', hadd, hh'⟩ := hh.addOutcome hs pass
      refine ⟨h', ?_, ?_, ?_⟩
      · rw [Call.answer, hadd]
      · have houtcomes : Function.update outcomes s (outcomes s ++ [pass]) =
            fun n => outcomes n ++ outcomesOf [(Call.addOutcome s pass : Call α)] n := by
          funext n
          by_cases hn : n = s
          · subst hn
            simp [outcomesOf, Call.outcomeOf?]
          · simp [outcomesOf, Call.outcomeOf?, hn, Ne.symm hn]
        have hnone : entriesOf [(Call.addOutcome s pass : Call α)] = [] := rfl
        rw [← houtcomes, hnone, List.append_nil]
        apply hh'
      · intro entry hentry
        cases hentry
    · right
      use .outcomeOfUnknown s
      rw [Call.answer, hh.addOutcome_error hs]

/-- Behind calls a history holds what those of them that succeeded brought. -/
theorem Holds.behind (hh : h.Holds scenarios entries outcomes) (hnodup : scenarios.Nodup)
    (calls : List (Call α)) :
  (behind h calls).Holds scenarios (entries ++ entriesOf (successes h calls))
      (fun s => outcomes s ++ outcomesOf (successes h calls) s)
    ∧ ∀ entry ∈ entriesOf (successes h calls), Covers entry.2 scenarios
  := by
  induction calls generalizing h entries outcomes with
  | nil =>
    constructor
    · simpa [successes, entriesOf, outcomesOf, History.behind] using hh
    · intro entry hentry
      cases hentry
  | cons c calls ih =>
    rw [History.behind, List.foldl_cons, ← History.behind, successes]
    rcases hh.on_cases hnodup c with ⟨h', hon, hh', hcovers⟩ | ⟨e, hon⟩
    · rw [hon]
      dsimp only
      obtain ⟨hrest, hcovers'⟩ := ih hh'
      have houtcomes : (fun s => outcomes s ++ outcomesOf (c :: successes h' calls) s) =
          fun s => outcomes s ++ outcomesOf [c] s ++ outcomesOf (successes h' calls) s := by
        funext s
        rw [outcomesOf_cons, List.append_assoc]
      rw [houtcomes, entriesOf_cons, ← List.append_assoc]
      use hrest
      intro entry hentry
      rcases List.mem_append.1 hentry with hentry | hentry
      · apply hcovers entry hentry
      · apply hcovers' entry hentry
    · rw [hon]
      apply ih hh

/-- A scenario has one sample of each round that has it. -/
theorem map_samplesOf_of_has {s : ScenarioName}
    (hentries : ∀ entry ∈ entries, Table.has s entry.2 = true) :
  (samplesOf s entries).map (fun sample => (sample.scenario, sample.round, some sample.metrics)) =
    entries.map fun entry => (s, entry.1, Table.get? s entry.2)
  := by
  induction entries with
  | nil => rfl
  | cons entry entries ih =>
    obtain ⟨hentry, hentries⟩ := List.forall_mem_cons.1 hentries
    obtain ⟨metrics, hmetrics⟩ := Option.isSome_iff_exists.1 hentry
    have hsample : sampleOf? s entry =
        some { scenario := s, round := entry.1, metrics } := by
      rw [sampleOf?, hmetrics]
      rfl
    rw [samplesOf, List.filterMap_cons_some hsample, ← samplesOf, List.map_cons, List.map_cons,
      ih hentries, hmetrics]

/-- Recording a round looks at its metrics of the scenarios only. -/
theorem record_congr {round round' : Round α} (index : Int)
    (hround : ∀ s ∈ h.scenarios, Table.get? s round = Table.get? s round') :
  h.record index round = h.record index round'
  := by
  have hlack : firstLacking? round h.scenarios = firstLacking? round' h.scenarios := by
    rw [firstLacking?, firstLacking?, ← List.head?_filter, ← List.head?_filter,
      List.filter_congr]
    intro s hs
    rw [Table.has, Table.has, hround s hs]
  have hadd : h.scenarios.foldl (addSample index round) h.tracks =
      h.scenarios.foldl (addSample index round') h.tracks := by
    apply List.foldl_ext
    intro tracks s hs
    rw [addSample, addSample, hround s hs]
  rw [History.record, ← firstLacking?, hlack, hadd, firstLacking?, ← History.record]

/-- Behind any calls on a fresh history of distinct scenarios, each scenario has one sample of each
round that was recorded by a call that succeeded, and no others, and the outcomes that such calls
recorded for it.  A round that lacks a scenario is refused, and so is an outcome of a scenario that
the history does not know; both leave the history as it is.  What a round holds of other scenarios
makes no difference. -/
theorem behind_agrees (hnodup : scenarios.Nodup) (calls : List (Call α)) :
  let h := behind (start scenarios) calls
  let done := successes (start scenarios) calls
  h.scenarios = scenarios
    ∧ h.rounds = (entriesOf done).length
    ∧ (∀ s ∈ scenarios, ∃ track, h.knownTrack s = .ok track
        ∧ track.samples.length = h.rounds
        ∧ track.samples.map (fun sample => (sample.scenario, sample.round, some sample.metrics)) =
            (entriesOf done).map (fun entry => (s, entry.1, Table.get? s entry.2))
        ∧ track.outcomes = outcomesOf done s
        ∧ h.passTally s = (outcomesOf done s).count true)
    ∧ (∀ index round, Covers round scenarios →
        ∃ h', h.record index round = .ok h' ∧ (Call.record index round).on h = (.ok (), h'))
    ∧ (∀ index round, ¬Covers round scenarios → ∃ s ∈ scenarios, Table.has s round = false
        ∧ h.record index round = .error (.sampleMissing index s)
        ∧ (Call.record index round).on h = (.error (.sampleMissing index s), h))
    ∧ (∀ s pass, s ∈ scenarios →
        ∃ h', h.addOutcome s pass = .ok h' ∧ (Call.addOutcome s pass).on h = (.ok (), h'))
    ∧ (∀ s pass, s ∉ scenarios → h.addOutcome s pass = .error (.outcomeOfUnknown s)
        ∧ (Call.addOutcome s pass).on h = (.error (.outcomeOfUnknown s), h))
    ∧ (∀ index round round', (∀ s ∈ scenarios, Table.get? s round = Table.get? s round') →
        (Call.record index round).on h = (Call.record index round').on h)
  := by
  intro h done
  obtain ⟨hh, hcovers⟩ : h.Holds scenarios (entriesOf done) (outcomesOf done)
      ∧ ∀ entry ∈ entriesOf done, Covers entry.2 scenarios :=
    (holds_start scenarios).behind hnodup calls
  have hon := fun c : Call α => Call.on_eq c h
  refine ⟨hh.scenarios_eq, hh.rounds_eq, ?_, ?_, ?_, ?_, ?_, ?_⟩
  · intro s hs
    have hsamples := map_samplesOf_of_has fun entry hentry => hcovers entry hentry s hs
    have hlength := congrArg List.length hsamples
    rw [List.length_map, List.length_map] at hlength
    use { samples := samplesOf s (entriesOf done), outcomes := outcomesOf done s }
    refine ⟨?_, ?_, hsamples, rfl, hh.passTally_eq hs⟩
    · rw [knownTrack, hh.get?_tracks s hs]
    · rw [hh.rounds_eq, hlength]
  · intro index round hround
    obtain ⟨h', hrecord, -⟩ := hh.record hnodup index hround
    use h', hrecord
    rw [hon, Call.answer, hrecord]
  · intro index round hround
    obtain ⟨s, hlack⟩ := Option.ne_none_iff_exists'.1 (mt firstLacking?_eq_none_iff.1 hround)
    have hrecord := hh.record_error index hlack
    use s, List.mem_of_find?_eq_some hlack
    refine ⟨by simpa using List.find?_some hlack, hrecord, ?_⟩
    rw [hon, Call.answer, hrecord]
  · intro s pass hs
    obtain ⟨h', hadd, -⟩ := hh.addOutcome hs pass
    use h', hadd
    rw [hon, Call.answer, hadd]
  · intro s pass hs
    have hadd := hh.addOutcome_error hs pass
    use hadd
    rw [hon, Call.answer, hadd]
  · intro index round round' hround
    rw [hon, hon, Call.answer, Call.answer, record_congr index (hh.scenarios_eq ▸ hround)]

/-- What was measured of the scenario `a` in each round below. -/
def steadyMetrics : Metrics Binary64 :=
  { rps := .ofInt 100, p99 := .ofInt 9, cpu := .ofInt 40, rss := .ofInt 5 }

/-- Calls of which the second and the fourth fail, for a scenario is missing and another one is not
known. -/
def mixedCalls : List (Call Binary64) :=
  [ .record 1 [(['a'], steadyMetrics), (['b'], steadyMetrics), (['z'], steadyMetrics)],
    .record 2 [(['a'], steadyMetrics)],
    .addOutcome ['a'] true,
    .addOutcome ['z'] true,
    .record 3 [(['b'], steadyMetrics), (['a'], steadyMetrics)] ]

/-- Two rounds and one outcome are left of those calls, and a round without `b` is refused. -/
theorem behind_agrees_mixed :
  [['a'], ['b']].Nodup
    ∧ (behind (start [['a'], ['b']]) mixedCalls).rounds = 2
    ∧ (∃ track, (behind (start [['a'], ['b']]) mixedCalls).knownTrack ['b'] = .ok track
        ∧ track.samples.map (fun sample => (sample.scenario, sample.round, some sample.metrics)) =
            [(['b'], 1, some steadyMetrics), (['b'], 3, some steadyMetrics)])
    ∧ (behind (start [['a'], ['b']]) mixedCalls).passTally ['a'] = 1
    ∧ (Call.record 4 [(['a'], steadyMetrics)]).on (behind (start [['a'], ['b']]) mixedCalls) =
        (.error (.sampleMissing 4 ['b']), behind (start [['a'], ['b']]) mixedCalls)
  := by
  have hnodup : [['a'], ['b']].Nodup := by decide
  obtain ⟨-, hrounds, htracks, -, hrefused, -⟩ := behind_agrees hnodup mixedCalls
  obtain ⟨-, -, -, -, -, htally⟩ := htracks ['a'] (by decide)
  obtain ⟨track, htrack, -, hsamples, -⟩ := htracks ['b'] (by decide)
  have hround : ¬Covers [(['a'], steadyMetrics)] [['a'], ['b']] := by
    intro hcovers
    cases hcovers ['b'] (by decide)
  obtain ⟨s, hs, hlack, -, hon⟩ := hrefused 4 _ hround
  refine ⟨hnodup, hrounds, ⟨track, htrack, hsamples⟩, htally, ?_⟩
  rcases List.mem_pair.1 hs with rfl | rfl
  · cases hlack
  · apply hon

end History

end PerfGate
