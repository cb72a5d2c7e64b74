/-
The Gregorian calendar, run back without end. A date is a year, a month and a day; day
numbers count from 1970-01-01. `Date.toDay` and `Date.ofDay` go between the two.
-/

namespace Gatewatch.Date

/-- Whether a year has a 29th of February. -/
def isLeap (year : Int) : Bool :=
  year % 4 == 0 && (year % 100 != 0 || year % 400 == 0)

/-- The lengths of the months of a year. -/
def monthLengths (year : Int) : List Nat :=
  [31, if isLeap year then 29 else 28, 31, 30, 31, 30, 31, 31, 30, 31, 30, 31]

/-- The number of days between the first day of the year 1 and that of the given year. -/
def daysBeforeYear (year : Int) : Int :=
  let y := year - 1
  365 * y + y / 4 - y / 100 + y / 400

/-- The number of days between the first day of the year 1 and 1970-01-01. -/
def epochDay : Int := 719162

/-- A calendar date. -/
structure Civil where
  year : Int
  month : Nat
  day : Nat
deriving DecidableEq, Repr

/-- The last year that dates reach, and the first. -/
def maxYear : Int := 262142

/-- The first year that dates reach. -/
def minYear : Int := -262143

namespace Civil

/-- Whether the month has that day. -/
def Valid (d : Civil) : Prop :=
  1 ≤ d.month ∧ d.month ≤ 12 ∧ 1 ≤ d.day ∧ d.day ≤ ((monthLengths d.year)[d.month - 1]?).getD 0
    ∧ minYear ≤ d.year ∧ d.year ≤ maxYear

instance (d : Civil) : Decidable d.Valid := by unfold Valid; infer_instance

/-- The date, if the calendar has it. -/
def ofFields? (year : Int) (month day : Nat) : Option Civil :=
  if Valid ⟨year, month, day⟩ then some ⟨year, month, day⟩ else none

/-- The days of months together. -/
def daysOf : List Nat → Nat
  | [] => 0
  | length :: lengths => length + daysOf lengths

/-- The day number of a date. -/
def toDay (d : Civil) : Int :=
  daysBeforeYear d.year + daysOf ((monthLengths d.year).take (d.month - 1))
    + ((d.day : Int) - 1) - epochDay

/-- The month and the day of the month that lie `rest` days behind the start of the month
`month`, given the lengths of that month and the later ones. -/
def splitMonths : Nat → List Nat → Nat → Nat × Nat
  | month, [], rest => (month, rest + 1)
  | month, length :: lengths, rest =>
    if rest < length then (month, rest + 1) else splitMonths (month + 1) lengths (rest - length)

/-- The year in which a day lies, counted from the first day of the year 1. -/
def yearOf (n : Int) : Int :=
  let guess := n * 400 / 146097 + 1
  if n < daysBeforeYear guess then guess - 1
  else if daysBeforeYear (guess + 1) ≤ n then guess + 1
  else guess

/-- The date with a day number. -/
def ofDay (day : Int) : Civil :=
  let n := day + epochDay
  let year := yearOf n
  let (month, dayOfMonth) := splitMonths 1 (monthLengths year) (n - daysBeforeYear year).toNat
  ⟨year, month, dayOfMonth⟩

end Civil

/-- The number of seconds in a day. -/
def daySeconds : Int := 86400

/-- A time of day, in seconds. -/
def clock? (hour minute second : Nat) : Option Int :=
  if hour < 24 ∧ minute < 60 ∧ second < 60 then
    some (((hour * 60 + minute) * 60 + second : Nat) : Int)
  else none

/-- The instants that a calendar date can be given for, in seconds since 1970. -/
def inRange (ts : Int) : Bool :=
  let day := ts / daySeconds
  minYear ≤ Civil.yearOf (day + epochDay) && Civil.yearOf (day + epochDay) ≤ maxYear

/-- A number with at least the given count of digits. -/
def padded (count n : Nat) : String :=
  let digits := Nat.toDigits 10 n
  String.ofList (List.replicate (count - digits.length) '0' ++ digits)

/-- A year with four digits; years outside those have a sign. -/
def yearText (year : Int) : String :=
  if 0 ≤ year ∧ year ≤ 9999 then padded 4 year.toNat
  else if 0 ≤ year then "+" ++ padded 4 year.toNat
  else "-" ++ padded 4 year.natAbs

/-- An instant as date and time of day in UTC, or its number if no date can be given. -/
def formatTime (ts : Int) : String :=
  if inRange ts then
    let d := Civil.ofDay (ts / daySeconds)
    let s := (ts % daySeconds).toNat
    yearText d.year ++ "-" ++ padded 2 d.month ++ "-" ++ padded 2 d.day ++ " "
      ++ padded 2 (s / 3600) ++ ":" ++ padded 2 (s / 60 % 60) ++ ":" ++ padded 2 (s % 60)
  else toString ts

end Gatewatch.Date
