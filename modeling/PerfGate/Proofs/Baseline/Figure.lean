import PerfGate.Proofs.Baseline.Selection
import PerfGate.Proofs.Exact
import PerfGate.Proofs.Log.Figures
import PerfGate.Snapshot

/-!
# Baselines of other numbers

What a baseline asks of its numbers, beyond calculating with them, is to be written with a fixed
number of places and to be read back (`Figure`).  Snapshots are written and baselines are read for
any such numbers by the rules that the program follows for `Binary64`; for these they are the rules
of the program.  With exact numbers they tell what the cells lose, apart from all rounding in
between.
-/

namespace PerfGate

/-- What the cells of a baseline ask of a number. -/
class Figure (α : Type) extends Scalar α where
  /-- The number nearest to a ratio. -/
  ofFraction : Nat → Nat → α
  /-- The exact value, if the number is finite. -/
  value? : α → Option ℚ
  /-- Whether the number is written with a minus. -/
  isSigned : α → Bool
  /-- The number with some digits behind the point. -/
  fixed : Nat → α → Text
  /-- The number that a text is, as an unsigned decimal and nothing else. -/
  unsigned? : Text → Option α

namespace Binary64

/-- The exact value of a finite number. -/
def value? (x : Binary64) : Option ℚ := x.units?.map fun u : Int => (u : ℚ) / unitsPerOne

/-- A whole number with at most 53 bits has itself as its value. -/
theorem value?_ofInt {n : Nat} (hn : n ≤ 2 ^ 53) :
  (Binary64.ofInt n).value? = some (n : ℚ)
  := by
  have hone : (unitsPerOne : ℚ) ≠ 0 := by exact_mod_cast unitsPerOne_pos.ne'
  have hunits : (Binary64.ofInt n).units? = some ((n * unitsPerOne : Nat) : Int) := by
    rw [units?_ofInt hn]
    rfl
  rw [value?, hunits, Option.map_some]
  push_cast
  rw [mul_div_assoc, div_self hone, mul_one]

/-- Whether there is a sign. -/
def isSigned : Binary64 → Bool
  | .finite s _ _ => s
  | .infinite s => s
  | .nan s => s

end Binary64

instance : Figure Binary64 where
  ofFraction := Binary64.ofFraction
  value? := Binary64.value?
  isSigned := Binary64.isSigned
  fixed := Binary64.fixed
  unsigned? := Numeral.unsigned?

namespace Exact

/-- The exact value of a numeral. -/
def ofNumeral (n : Binary64.Numeral) : ℚ :=
  (if n.negative then -1 else 1) * n.mantissa * (n.base : ℚ) ^ n.power

/-- The number with some digits behind the point. -/
def fixed (places : Nat) (v : ℚ) : Text :=
  Binary64.signMark (v < 0) ++
    Binary64.withPoint places (Binary64.roundQuotient (v.num.natAbs * Nat.pow 10 places) v.den)

/-- An unsigned decimal and nothing else. -/
def unsigned? (t : Text) : Option ℚ :=
  let body := t.trim
  if body.isEmpty || Numeral.unsignedLength body != body.length then none
  else (Binary64.Numeral.ofText? body).map ofNumeral

end Exact

instance : Figure ℚ where
  ofFraction n d := n / d
  value? := some
  isSigned v := decide (v < 0)
  fixed := Exact.fixed
  unsigned? := Exact.unsigned?

/-! ### Reading and writing -/

section

variable {α : Type} [Figure α]

/-- How many microseconds a unit is. -/
def Latency.unitOf? (unit : Text) : Option α :=
  if unit == "ns".toList then some (Figure.ofFraction 1 1000)
  else if unit == "us".toList then some (Scalar.ofInt 1)
  else if unit == "ms".toList then some (Scalar.ofInt 1000)
  else if unit == "s".toList then some (Scalar.ofInt 1000000)
  else none

/-- The latency in microseconds. -/
def Latency.read? (t : Text) : Option α := do
  let s := Text.lower (Text.strip [' ', '\t'] t)
  let n := Numeral.unsignedLength s
  if n = 0 then none
  else
    let factor ← unitOf? (s.drop n)
    let value ← Figure.unsigned? (s.take n)
    some (value * factor)

/-- The metrics in the cells of a row. -/
def SheetCells.read? (c : SheetCells) : Option (Metrics α) := do
  let rps ← Figure.unsigned? (Text.strip [' ', ','] c.rps)
  let p99 ← Latency.read? c.p99
  let cpu ← Figure.unsigned? (Text.strip [' ', ',', '%'] c.cpu)
  let rss ← Figure.unsigned? (withoutEnd ['K', 'B'] (Text.strip [' ', ','] c.rss))
  some { rps, p99, cpu, rss }

/-- The entry of the cells of a row. -/
def SheetCells.readFigures? (c : SheetCells) : Option (BaselineFigures α) :=
  c.read?.map BaselineFigures.ofMetrics

/-- The row of measured metrics. -/
def SheetRow.write (scenario : ScenarioName) (m : Metrics α) (rounds : Int) : SheetRow where
  cells :=
    { scenario
      rps := (Figure.fixed 2 m.rps).take cellWidth
      p99 := (Figure.fixed 2 (m.p99 / Scalar.ofInt 1000) ++ ['m', 's']).take cellWidth
      avgLatency := "n/a".toList
      cpu := (Figure.fixed 2 m.cpu ++ ['%']).take cellWidth
      rss := (Figure.fixed 0 m.rss ++ ['K', 'B']).take cellWidth
      notes := "median of ".toList ++ Decimal.signed rounds ++ " rounds".toList }

/-- The sheet with the medians of a history. -/
def BaselineSheet.write (h : History α) (c : Config) (run : RunMeta) : BaselineSheet where
  preamble := snapshotHead h.rounds c run
  rows := h.scenarios.map fun s => SheetRow.write s (h.medians s).toMetrics h.rounds

/-- The entries of a text for the wanted scenarios. -/
def Baseline.read (t : Text) (wanted : List ScenarioName) : Except BaselineError (Baseline α) :=
  gather SheetCells.readFigures? (BaselineSheet.candidates t) wanted

end

/-! ### The rules of the program -/

theorem SheetCells.readFigures?_eq : SheetCells.readFigures? = SheetCells.entry? := rfl

theorem BaselineSheet.write_eq (h : History Binary64) (c : Config) (run : RunMeta) :
  write h c run = snapshot h c run
  := rfl

theorem Baseline.read_eq (t : Text) (wanted : List ScenarioName) :
  read t wanted = ofText t wanted
  := by
  rw [read, SheetCells.readFigures?_eq, ofText_eq_gather]

/-! ### Laws -/

/-- Numbers whose cells are rounded once, and read back as what is written in them. -/
class LawfulFigure (α : Type) [Figure α] : Prop where
  /-- A number without a minus is written as the nearest count of steps. -/
  exists_fixed_eq {x : α} {v : ℚ} (hx : Figure.value? x = some v)
    (hsign : Figure.isSigned x = false) (places : Nat) :
    ∃ k, IsNearest places v k ∧ Figure.fixed places x = Binary64.withPoint places k
  /-- A count of steps of at least a hundredth is read back, unless it is astronomical. -/
  unsigned?_withPoint {places k : Nat} (hplaces : places ≤ 2) (hk : k ≤ 2 ^ 400) :
    Figure.unsigned? (Binary64.withPoint places k) = some (Figure.ofFraction k (10 ^ places) : α)

namespace Binary64

theorem exists_fixed_eq {x : Binary64} {v : ℚ} (hx : x.value? = some v)
    (hsign : x.isSigned = false) (places : Nat) :
  ∃ k, IsNearest places v k ∧ x.fixed places = withPoint places k
  := by
  cases x with
  | finite s u hu =>
    obtain rfl : s = false := hsign
    obtain rfl := Option.some.inj hx
    use stepsAt places u
    constructor
    · apply isNearest_roundQuotient places u unitsPerOne_pos
    · rfl
  | infinite s => cases hx
  | nan s => cases hx

end Binary64

instance : LawfulFigure Binary64 where
  exists_fixed_eq := Binary64.exists_fixed_eq
  unsigned?_withPoint := Numeral.unsigned?_withPoint

namespace Exact

theorem exists_fixed_eq {v : ℚ} (hsign : decide (v < 0) = false) (places : Nat) :
  ∃ k, IsNearest places v k ∧ fixed places v = Binary64.withPoint places k
  := by
  have hnonneg : 0 ≤ v := not_lt.1 (of_decide_eq_false hsign)
  have hvalue : ((v.num.natAbs : Nat) : ℚ) / v.den = v := by
    rw [Nat.cast_natAbs, abs_of_nonneg (Rat.num_nonneg.2 hnonneg)]
    apply Rat.num_div_den
  use Binary64.roundQuotient (v.num.natAbs * Nat.pow 10 places) v.den
  constructor
  · have hnearest := Binary64.isNearest_roundQuotient places v.num.natAbs v.den_pos
    rw [hvalue] at hnearest
    apply hnearest
  · rw [fixed, hsign]
    rfl

/-- A count of steps is read back as their exact number. -/
theorem unsigned?_withPoint (places k : Nat) :
  unsigned? (Binary64.withPoint places k) = some ((k : ℚ) / (10 ^ places : Nat))
  := by
  have hne := Decimal.digits_ne_nil (k / Nat.pow 10 places)
  have hwhole := Decimal.isDigits_digits (k / Nat.pow 10 places)
  have hbehind := Binary64.isDigits_behindPoint places k
  have hnil : Binary64.withPoint places k ≠ [] := by
    obtain ⟨d, rest, -, hrest⟩ :=
      Numeral.exists_cons_written hne hwhole (Binary64.behindPoint places k)
    rw [Binary64.withPoint_eq_written, hrest]
    apply List.cons_ne_nil
  unfold unsigned?
  rw [Binary64.withPoint_eq_written] at hnil ⊢
  dsimp only
  rw [Numeral.trim_written hwhole hbehind, Numeral.unsignedLength_written hne hwhole hbehind,
    Numeral.ofText?_written hne hwhole hbehind, Binary64.value_digits_behindPoint,
    Binary64.length_behindPoint]
  simpa [ofNumeral, div_eq_mul_inv] using hnil

end Exact

instance : LawfulFigure ℚ where
  exists_fixed_eq {x v} hx hsign places := by
    obtain rfl := Option.some.inj hx
    apply Exact.exists_fixed_eq hsign
  unsigned?_withPoint {places k} _ _ := Exact.unsigned?_withPoint places k

end PerfGate
