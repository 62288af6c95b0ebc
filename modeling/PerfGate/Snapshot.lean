import PerfGate.Baseline.Entry
import PerfGate.Report

/-!
# Baseline snapshots

A fresh baseline sheet: where it came from, and a row with the medians of each scenario.
-/

namespace PerfGate

namespace BaselineSheet

/-- The lines on provenance and settings. -/
def snapshotHead (rounds : Int) (c : Config) (run : RunMeta) : List Text :=
  [ "# Baseline Snapshot".toList,
    [],
    Report.item "Date".toList run.date,
    Report.item "Profile".toList ("single-core ".toList ++ Report.quoted c.shape),
    Report.item "Rounds".toList (Decimal.signed rounds),
    Report.item "Duration per scenario".toList c.policy.duration,
    Report.item "Upstream transport".toList c.backendTransport,
    Report.item "Require upstream h2".toList (Config.flagDigit c.requireBackendH2),
    Report.item "Mock scenario".toList c.mockScenario,
    [] ]

/-- The sheet with the medians of a history. -/
def snapshot (h : History Binary64) (c : Config) (run : RunMeta) : BaselineSheet where
  preamble := snapshotHead h.rounds c run
  rows := h.scenarios.map fun s =>
    SheetRow.ofMetrics s (h.medians s).toMetrics h.rounds

end BaselineSheet

end PerfGate
