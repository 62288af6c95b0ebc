import PerfGate.Log.Summary
import PerfGate.Proofs.Numeral
import PerfGate.Proofs.Text.Fields

/-!
# What a summary of a load run holds

Whatever a summary holds was a field of some line: the latencies as they stand there, the rate and
the number of requests as numbers that were read from one.
-/

namespace PerfGate

namespace LoadSummary

/-- Whether all that a summary holds was read from lines. -/
structure IsFrom (ls : List Text) (s : LoadSummary) : Prop where
  /-- The rate was read from a text. -/
  rps : ∀ x, s.rps = some x → ∃ t, Numeral.unsigned? t = some x
  /-- The number of requests was read from a text. -/
  requests : ∀ n, s.requests = some n → ∃ t k, Numeral.natural? t = some k ∧ n = Int.ofNat k
  /-- The 99th percentile is a field of a line. -/
  p99 : ∀ t, s.p99 = some t → ∃ l ∈ ls, t ∈ Text.fields l
  /-- The average latency is a field of a line. -/
  latencyAvg : ∀ t, s.latencyAvg = some t → ∃ l ∈ ls, t ∈ Text.fields l

theorem IsFrom.readFields {ls : List Text} {s : LoadSummary} (hs : s.IsFrom ls) {l : Text}
    (hl : l ∈ ls) :
  (s.readFields (Text.fields l)).IsFrom ls
  := by
  rcases hfields : Text.fields l with _ | ⟨first, _ | ⟨second, rest⟩⟩
  · apply hs
  · apply hs
  · have hsecond : second ∈ Text.fields l := by simp [hfields]
    rw [LoadSummary.readFields]
    split
    · exact { hs with rps := fun x hx => ⟨second, hx⟩ }
    · split
      · refine { hs with requests := ?_ }
        intro n hn
        obtain ⟨k, hk, rfl⟩ := Option.map_eq_some_iff.1 hn
        exact ⟨first, k, hk, rfl⟩
      · split
        · refine { hs with p99 := ?_ }
          intro t ht
          obtain rfl := Option.some.inj ht
          exact ⟨l, hl, hsecond⟩
        · split
          · refine { hs with latencyAvg := ?_ }
            intro t ht
            obtain rfl := Option.some.inj ht
            exact ⟨l, hl, hsecond⟩
          · apply hs

theorem IsFrom.foldl {ls : List Text} {s : LoadSummary} (hs : s.IsFrom ls) {todo : List Text}
    (htodo : ∀ l ∈ todo, l ∈ ls) :
  (todo.foldl (fun s l => s.readFields (Text.fields l)) s).IsFrom ls
  := by
  induction todo generalizing s with
  | nil => apply hs
  | cons l todo ih =>
    apply ih (hs.readFields (htodo l List.mem_cons_self))
    intro k hk
    apply htodo k (List.mem_cons_of_mem l hk)

/-- The summary of a text is read from its lines. -/
theorem isFrom_ofText (t : Text) :
  (ofText t).IsFrom (Text.lines t)
  := by
  apply IsFrom.foldl _ fun _ hl => hl
  constructor <;> rintro _ ⟨⟩

/-- The latencies of the summary of a text without carriage returns can stand as fields. -/
theorem isField_of_ofText {output : Text} (hreturn : '\r' ∉ output) {t : Text}
    (h : (ofText output).p99 = some t ∨ (ofText output).latencyAvg = some t) :
  t.IsField
  := by
  obtain ⟨l, hl, ht⟩ : ∃ l ∈ Text.lines output, t ∈ Text.fields l := by
    rcases h with h | h
    · apply (isFrom_ofText output).p99 t h
    · apply (isFrom_ofText output).latencyAvg t h
  apply Text.isField_of_mem_fields (Text.feed_notMem_of_mem_lines hl) _ ht
  intro hmem
  exact hreturn (Text.mem_of_mem_lines hl hmem)

end LoadSummary

end PerfGate
