import PerfGate.Binary64.Bits
import PerfGate.Machine.Procfs
import PerfGate.Main
import PerfGate.Proofs.Baseline.Edits
import PerfGate.Proofs.Baseline.Recall
import PerfGate.Proofs.Baseline.Separators
import PerfGate.Proofs.Baseline.Units
import PerfGate.Proofs.Config.Settings
import PerfGate.Proofs.Dual.Reports
import PerfGate.Proofs.Finite
import PerfGate.Proofs.History.Calls
import PerfGate.Proofs.Live.Exclusion
import PerfGate.Proofs.Live.Ports
import PerfGate.Proofs.LoadRun
import PerfGate.Proofs.LoadScript
import PerfGate.Proofs.Log.Incomplete
import PerfGate.Proofs.Outcome
import PerfGate.Proofs.Path.Search
import PerfGate.Proofs.Process.Course
import PerfGate.Proofs.Process.Deadline
import PerfGate.Proofs.Process.Descent
import PerfGate.Proofs.Procfs
import PerfGate.Proofs.Recut
import PerfGate.Proofs.Recut.Contract
import PerfGate.Proofs.Report
import PerfGate.Proofs.Rounds.Cap
import PerfGate.Proofs.Rounds.Contract
import PerfGate.Proofs.Rounds.Judged
import PerfGate.Proofs.Rounds.Target
import PerfGate.Proofs.Sampler
import PerfGate.Proofs.TransportCounts
import PerfGate.Proofs.Verdict.Majority
import PerfGate.Proofs.Verdict.Unanimous
import PerfGate.Transcript
