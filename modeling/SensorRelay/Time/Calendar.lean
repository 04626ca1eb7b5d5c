/-!
# The calendar

Days are numbered from 0 on January 1 of year 1, in the Gregorian calendar carried back to
that year. `Date.dayNumber` and `Date.ofDayNumber` go between a date and its number;
`weekDate?` reads the year, week and weekday form.
-/

namespace SensorRelay

/-- Every fourth year is a leap year, but of the full centuries only every fourth. -/
def isLeapYear (year : Nat) : Bool :=
  year % 4 == 0 && (year % 100 != 0 || year % 400 == 0)

/-- The lengths of the months of a year. -/
def monthLengths (leap : Bool) : List Nat :=
  [31, if leap then 29 else 28, 31, 30, 31, 30, 31, 31, 30, 31, 30, 31]

/-- The days before January 1 of a year. -/
def daysBeforeYear (year : Nat) : Nat :=
  (year - 1) * 365 + (year - 1) / 4 - (year - 1) / 100 + (year - 1) / 400

/-- A year, a month and a day, each counted from 1. -/
structure Date where
  year : Nat
  month : Nat
  day : Nat
deriving DecidableEq

namespace Date

/-- The length of the month of a date. -/
def monthLength (d : Date) : Nat :=
  (monthLengths (isLeapYear d.year)).getD (d.month - 1) 0

/-- A date in years 1 to 9999. -/
def isValid (d : Date) : Bool :=
  1 ≤ d.year && d.year ≤ 9999 && 1 ≤ d.month && d.month ≤ 12 && 1 ≤ d.day
    && d.day ≤ d.monthLength

/-- The number of the day. -/
def dayNumber (d : Date) : Nat :=
  daysBeforeYear d.year + ((monthLengths (isLeapYear d.year)).take (d.month - 1)).foldl (· + ·) 0
    + (d.day - 1)

/-- The year a day falls in, and its number within the year from 0. -/
def yearOfDay (n : Nat) : Nat × Nat :=
  let cycles := n / 146097
  let inCycle := n % 146097
  let centuries := min (inCycle / 36524) 3
  let inCentury := inCycle - centuries * 36524
  let leaps := inCentury / 1461
  let inLeap := inCentury % 1461
  let years := min (inLeap / 365) 3
  (400 * cycles + 100 * centuries + 4 * leaps + years + 1, inLeap - years * 365)

/-- Walks through month lengths: the month, counted on from `month`, and the day in it. -/
def monthOfDay : Nat → List Nat → Nat → Nat × Nat
  | month, [], n => (month, n + 1)
  | month, length :: rest, n =>
    if n < length then (month, n + 1) else monthOfDay (month + 1) rest (n - length)

/-- The date of a day number. -/
def ofDayNumber (n : Nat) : Date :=
  let (year, inYear) := yearOfDay n
  let (month, day) := monthOfDay 1 (monthLengths (isLeapYear year)) inYear
  ⟨year, month, day⟩

end Date

/-- The number of days in years 1 to 9999. -/
def dayLimit : Nat := 3652059

/-- The day number of the Monday that starts week 1 of a year, plus 7: week 1 is the one
with the first Thursday. -/
def firstMonday (year : Nat) : Nat :=
  let first := daysBeforeYear year
  let weekday := first % 7
  if weekday ≤ 3 then first - weekday + 7 else first + 14 - weekday

/-- Does the year have 53 weeks? -/
def hasLongYear (year : Nat) : Bool :=
  let weekday := daysBeforeYear year % 7
  weekday == 3 || (weekday == 2 && isLeapYear year)

/-- The day number of a weekday (1 is Monday) in a week of a year. -/
def weekDate? (year week weekday : Nat) : Option Nat :=
  if 1 ≤ year ∧ year ≤ 9999 ∧ 1 ≤ weekday ∧ weekday ≤ 7 ∧ 1 ≤ week ∧
      (week ≤ 52 ∨ (week = 53 ∧ hasLongYear year)) then
    let n := firstMonday year + (week - 1) * 7 + (weekday - 1)
    if 7 ≤ n ∧ n - 7 < dayLimit then some (n - 7) else none
  else none

end SensorRelay
