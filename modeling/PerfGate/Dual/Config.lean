import PerfGate.Config.Environment

/-!
# Configuration of the dual gate

A dual gate runs two legs of one gate: the pinned leg, which blocks, and the unpinned leg,
which is only observed.  Each leg has its baseline, its number of rounds and its duration;
all other settings are shared.
-/

namespace PerfGate

/-- The settings of both legs. -/
structure DualConfig where
  /-- What the legs share. -/
  base : Config := {}
  /-- The baseline of the pinned leg. -/
  pinnedBaselineFile : Text := "artifacts/perf/baseline_single_core_1x8_pinned.md".toList
  /-- The baseline of the unpinned leg. -/
  unpinnedBaselineFile : Text := []
  /-- The planned rounds of the pinned leg. -/
  pinnedRounds : Int := 9
  /-- The planned rounds of the unpinned leg. -/
  unpinnedRounds : Int := 5
  /-- The duration of a load run in the pinned leg. -/
  pinnedDuration : Text := "10s".toList
  /-- The duration of a load run in the unpinned leg. -/
  unpinnedDuration : Text := []
  /-- Whether the unpinned leg is left out. -/
  skipUnpinned : Bool := false
deriving DecidableEq

namespace DualConfig

/-- The settings of the pinned leg: cores are filled in. -/
def pinnedLeg (d : DualConfig) : Config :=
  { d.base with
    autoPinCores := true
    baselineFile := d.pinnedBaselineFile
    policy.plannedRounds := d.pinnedRounds
    policy.duration := d.pinnedDuration }

/-- The settings of the unpinned leg: no core is chosen. -/
def unpinnedLeg (d : DualConfig) : Config :=
  { d.base with
    autoPinCores := false
    pins := {}
    baselineFile := d.unpinnedBaselineFile
    policy.plannedRounds := d.unpinnedRounds
    policy.duration := d.unpinnedDuration }

/-- The variables of the legs, in the order in which they are looked up.  The baseline and
the duration of the pinned leg are those of the unpinned leg too, unless it has its own. -/
def bindings : List (Binding DualConfig) :=
  [ ⟨"PINNED_BASELINE_FILE".toList, .text
      ⟨(·.pinnedBaselineFile),
        fun d v => { d with pinnedBaselineFile := v, unpinnedBaselineFile := v }⟩⟩,
    ⟨"UNPINNED_BASELINE_FILE".toList, .text
      ⟨(·.unpinnedBaselineFile), ({ · with unpinnedBaselineFile := · })⟩⟩,
    ⟨"PINNED_ROUNDS".toList, .integer ⟨(·.pinnedRounds), ({ · with pinnedRounds := · })⟩⟩,
    ⟨"UNPINNED_ROUNDS".toList, .integer
      ⟨(·.unpinnedRounds), ({ · with unpinnedRounds := · })⟩⟩,
    ⟨"PINNED_DURATION".toList, .text
      ⟨(·.pinnedDuration),
        fun d v => { d with pinnedDuration := v, unpinnedDuration := v }⟩⟩,
    ⟨"UNPINNED_DURATION".toList, .text
      ⟨(·.unpinnedDuration), ({ · with unpinnedDuration := · })⟩⟩,
    ⟨"SKIP_UNPINNED_OBSERVE".toList, .flag
      ⟨(·.skipUnpinned), ({ · with skipUnpinned := · })⟩⟩ ]

/-- The settings without any variable of the legs: both have the same baseline and the same
duration. -/
def ofBase (base : Config) : DualConfig :=
  let d : DualConfig := { base }
  { d with unpinnedBaselineFile := d.pinnedBaselineFile, unpinnedDuration := d.pinnedDuration }

/-- The settings of an environment, if the constraints hold for the shared settings and for
both legs. -/
def load (env : Environment) : Except SettingError DualConfig := do
  let base ← Config.load env {}
  let d ← Binding.loadAll env bindings (ofBase base)
  d.pinnedLeg.validate
  d.unpinnedLeg.validate
  pure d

end DualConfig

end PerfGate
