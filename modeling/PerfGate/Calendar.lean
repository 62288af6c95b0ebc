import PerfGate.Text.Decimal

/-!
# Calendar

Moments in universal time, from the seconds since 1970 began.  Years are counted from March,
so that the day that some years have more is their last one.
-/

namespace PerfGate

/-- A moment in universal time. -/
structure Moment where
  year : Nat
  month : Nat
  day : Nat
  hour : Nat
  minute : Nat
  second : Nat
deriving DecidableEq

namespace Moment

/-- The days from the first of March of the year zero to the first of January of 1970. -/
def daysBefore1970 : Nat := 719468

/-- The days of four hundred years. -/
def daysOf400Years : Nat := 146097

/-- The year and the day in it, both counted from March, of a day of four hundred years. -/
def splitYear (day : Nat) : Nat × Nat :=
  let year := (day - day / 1460 + day / 36524 - day / 146096) / 365
  (year, day - (365 * year + year / 4 - year / 100))

/-- The month, counted from March, and the day in it, from one, of a day of a year. -/
def splitMonth (day : Nat) : Nat × Nat :=
  let month := (5 * day + 2) / 153
  (month, day - (153 * month + 2) / 5 + 1)

/-- The moment that lies some seconds behind the beginning of 1970. -/
def ofSeconds (seconds : Nat) : Moment :=
  let days := seconds / 86400 + daysBefore1970
  let (year, dayOfYear) := splitYear (days % daysOf400Years)
  let (month, day) := splitMonth dayOfYear
  let afterNewYear := 10 ≤ month
  let rest := seconds % 86400
  { year := 400 * (days / daysOf400Years) + year + if afterNewYear then 1 else 0
    month := if afterNewYear then month - 9 else month + 3
    day
    hour := rest / 3600
    minute := rest / 60 % 60
    second := rest % 60 }

/-- The moment for people. -/
def shown (t : Moment) : Text :=
  let two := Decimal.padded 2
  Decimal.digits t.year ++ '-' :: two t.month ++ '-' :: two t.day ++ ' ' :: two t.hour ++
    ':' :: two t.minute ++ ':' :: two t.second ++ " UTC".toList

/-- The moment for file names. -/
def stamp (t : Moment) : Text :=
  let two := Decimal.padded 2
  Decimal.digits t.year ++ two t.month ++ two t.day ++ '_' :: two t.hour ++ two t.minute ++
    two t.second

end Moment

end PerfGate
