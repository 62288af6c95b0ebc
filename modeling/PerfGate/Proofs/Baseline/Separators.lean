import PerfGate.Proofs.Numeral.Grammar

/-!
# Separators in cells

A numeric cell may be written with spaces and with commas between its digits.  Putting any number of
them into the cells of a row that is accepted changes neither that it is accepted nor its entry, as
long as no comma is put into its latency: there commas are no separators
(`entry?_eq_of_isSpaced`).
-/

namespace PerfGate

namespace Text

/-- Whether the second text is the first one with any number of spaces and commas put in, between
its digits or anywhere else. -/
inductive Spaced : Text → Text → Prop where
  | nil : Spaced [] []
  | keep (c : Char) {t u : Text} : Spaced t u → Spaced (c :: t) (c :: u)
  | space {t u : Text} : Spaced t u → Spaced t (' ' :: u)
  | comma {t u : Text} : Spaced t u → Spaced t (',' :: u)

/-- Without the separators that are taken out, nothing has changed. -/
theorem Spaced.strip_eq {cs t u : Text} (h : Spaced t u) (hspace : ' ' ∈ cs)
    (hcomma : ',' ∈ u → ',' ∈ cs) :
  strip cs u = strip cs t
  := by
  unfold strip
  induction h with
  | nil => rfl
  | keep c h ih =>
    have htail := ih fun hmem => hcomma (List.mem_cons_of_mem _ hmem)
    rw [List.filter_cons, List.filter_cons, htail]
  | space h ih =>
    have htail := ih fun hmem => hcomma (List.mem_cons_of_mem _ hmem)
    rw [List.filter_cons_of_neg (by simpa using hspace), htail]
  | comma h ih =>
    have htail := ih fun hmem => hcomma (List.mem_cons_of_mem _ hmem)
    rw [List.filter_cons_of_neg (by simpa using hcomma List.mem_cons_self), htail]

end Text

namespace Latency

open Numeral

/-- A latency is read only if there is no comma in it. -/
theorem comma_notMem_of_microseconds? {t : Text} {y : Binary64} (h : microseconds? t = some y) :
  ',' ∉ t
  := by
  intro hcomma
  obtain ⟨v, scale, x, factor, ⟨number, unit, htext, hv, hunit⟩, -⟩ := microseconds?_eq_some_iff.1 h
  obtain ⟨whole, places, -, hwhole, hplaces, rfl, -⟩ := hv
  have hkept : ',' ∈ Text.lower (Text.strip [' ', '\t'] t) :=
    List.mem_map_of_mem (f := Char.toLower) (List.mem_filter.2 ⟨hcomma, by decide⟩)
  rw [htext, List.mem_append] at hkept
  rcases hkept with hnumber | hletter
  · rcases mem_written hwhole hplaces hnumber with hdigit | hpoint
    · cases hdigit
    · cases hpoint
  · simp only [unitScales, List.mem_cons, Prod.mk.injEq, List.not_mem_nil, or_false] at hunit
    rcases hunit with ⟨rfl, -⟩ | ⟨rfl, -⟩ | ⟨rfl, -⟩ | ⟨rfl, -⟩ <;>
      · revert hletter
        decide

end Latency

namespace SheetCells

/-- Whether the numeric cells of a row are those of another row with any number of spaces and commas
put in. -/
structure IsSpaced (c c' : SheetCells) : Prop where
  /-- The rate. -/
  rps : Text.Spaced c.rps c'.rps
  /-- The latency. -/
  p99 : Text.Spaced c.p99 c'.p99
  /-- The processor time. -/
  cpu : Text.Spaced c.cpu c'.cpu
  /-- The memory. -/
  rss : Text.Spaced c.rss c'.rss

variable {c c' : SheetCells}

/-- A row is read as the other one, if its latency is. -/
theorem IsSpaced.metrics?_eq (h : c.IsSpaced c')
    (hp99 : Latency.microseconds? c'.p99 = Latency.microseconds? c.p99) :
  c'.metrics? = c.metrics?
  := by
  have hrps : Text.strip [' ', ','] c'.rps = Text.strip [' ', ','] c.rps :=
    h.rps.strip_eq (by decide) fun _ => by decide
  have hcpu : Text.strip [' ', ',', '%'] c'.cpu = Text.strip [' ', ',', '%'] c.cpu :=
    h.cpu.strip_eq (by decide) fun _ => by decide
  have hrss : Text.strip [' ', ','] c'.rss = Text.strip [' ', ','] c.rss :=
    h.rss.strip_eq (by decide) fun _ => by decide
  unfold metrics?
  rw [hrps, hp99, hcpu, hrss]

/-- A row that is accepted is accepted with the same entry when spaces and commas are put into its
numeric cells, unless a comma is put into the latency: then it is refused. -/
theorem entry?_eq_of_isSpaced {e : BaselineFigures Binary64} (h : c.entry? = some e)
    (hspaced : c.IsSpaced c') :
  c'.entry? = if ',' ∈ c'.p99 then none else some e
  := by
  split
  · rename_i hcomma
    have hnone : Latency.microseconds? c'.p99 = none := by
      apply Option.eq_none_iff_forall_ne_some.2
      intro y hy
      apply Latency.comma_notMem_of_microseconds? hy hcomma
    unfold entry? metrics?
    rw [hnone]
    cases Numeral.unsigned? (Text.strip [' ', ','] c'.rps) with
    | none => rfl
    | some rps => rfl
  · rename_i hcomma
    have hp99 : Latency.microseconds? c'.p99 = Latency.microseconds? c.p99 := by
      have hstrip : Text.strip [' ', '\t'] c'.p99 = Text.strip [' ', '\t'] c.p99 :=
        hspaced.p99.strip_eq (by decide) fun hmem => absurd hmem hcomma
      unfold Latency.microseconds?
      rw [hstrip]
    rw [← h]
    unfold entry?
    rw [hspaced.metrics?_eq hp99]

/-- Separators in all four cells, and in the latency spaces alone. -/
theorem entry?_eq_of_isSpaced_all :
  let c : SheetCells :=
    { rps := "12345.5".toList, p99 := "12.5ms".toList, cpu := "75.0%".toList
      rss := "10240KB".toList }
  let c' : SheetCells :=
    { rps := "12,345.5".toList, p99 := "1 2.5ms".toList, cpu := "7 , 5.0%".toList
      rss := "10, 240KB".toList }
  ∃ e, c.entry? = some e ∧ c.IsSpaced c' ∧ c'.entry? = some e
  := by
  intro c c'
  have haccepted : c.entry?.isSome = true := by decide +kernel
  obtain ⟨e, he⟩ := Option.isSome_iff_exists.1 haccepted
  have hspaced : c.IsSpaced c' := by
    constructor <;> repeat constructor
  have hcomma : ',' ∉ c'.p99 := by decide
  use e, he, hspaced
  rw [entry?_eq_of_isSpaced he hspaced, if_neg hcomma]

/-- A comma between the digits of the latency has a row refused that is accepted without it. -/
theorem entry?_eq_none_of_comma :
  let c : SheetCells :=
    { rps := "1".toList, p99 := "1250us".toList, cpu := "1%".toList, rss := "1KB".toList }
  let c' : SheetCells := { c with p99 := "1,250us".toList }
  c.IsSpaced c' ∧ c.entry?.isSome = true ∧ c'.entry? = none
  := by
  intro c c'
  refine ⟨?_, by decide +kernel, by decide +kernel⟩
  constructor <;> repeat constructor

end SheetCells

end PerfGate
