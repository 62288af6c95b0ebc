import PerfGate.Scalar

/-!
# Statistics over rounds

The exact median (the central value, or half the sum of the two central values), the mean,
the population standard deviation and the coefficient of variation in percent.  Each of
them is zero for an empty list.
-/

namespace PerfGate

namespace Stats

variable {α : Type} [Scalar α]

/-- Puts a value behind those of a descending list that it is below. -/
def insertDescending (v : α) : List α → List α
  | [] => [v]
  | w :: ws => if Scalar.lt v w then w :: insertDescending v ws else v :: w :: ws

/-- Puts a value into a descending list: at the end if it is below the last value, else
behind those that it is below.  Only next to values that nothing is below does the first
rule make a difference. -/
def place (v : α) (ws : List α) : List α :=
  match ws.getLast? with
  | some w => if Scalar.lt v w then ws ++ [v] else insertDescending v ws
  | none => [v]

/-- The values in ascending order. -/
def sort (values : List α) : List α :=
  (values.foldl (fun ws v => place v ws) []).reverse

/-- The central value of the sorted values, or half the sum of the two central ones. -/
def median (values : List α) : α :=
  let sorted := sort values
  let n := sorted.length
  let zero : α := Scalar.ofInt 0
  if n = 0 then zero
  else if n % 2 = 1 then sorted.getD (n / 2) zero
  else (sorted.getD (n / 2 - 1) zero + sorted.getD (n / 2) zero) / Scalar.ofInt 2

/-- The sum, from left to right. -/
def sum (values : List α) : α := values.foldl (· + ·) (Scalar.ofInt 0)

/-- The arithmetic mean. -/
def mean (values : List α) : α :=
  if values.isEmpty then Scalar.ofInt 0 else sum values / Scalar.ofInt values.length

/-- The population standard deviation. -/
def deviation (values : List α) : α :=
  if values.isEmpty then Scalar.ofInt 0
  else
    let m := mean values
    Scalar.sqrt (sum (values.map fun v => (v - m) * (v - m)) / Scalar.ofInt values.length)

/-- The coefficient of variation in percent; zero when the mean is zero. -/
def variation (values : List α) : α :=
  let m := mean values
  if values.isEmpty || Scalar.isZero m then Scalar.ofInt 0
  else deviation values / m * Scalar.ofInt 100

end Stats

end PerfGate
