/-!
# Calendar — civil dates and day numbers

  The proleptic Gregorian calendar. A day is counted from 1970-01-01 (`Date.dayNumber`), and
  `Date.ofDayNumber` finds the date of a day: an estimate of the year that is off by one at most,
  then a walk through the months of that year.
-/

namespace Postbox

/-- A day of the calendar; `Date.isValid` tells whether it exists. -/
structure Date where
  year  : Int
  month : Nat
  day   : Nat
deriving DecidableEq, Repr

namespace Calendar

/-- Years with a 29th of February. -/
def isLeap (year : Int) : Bool :=
  year % 4 == 0 && (year % 100 != 0 || year % 400 == 0)

/-- The lengths of the twelve months. -/
def monthLengths (leap : Bool) : List Nat :=
  [31, if leap then 29 else 28, 31, 30, 31, 30, 31, 31, 30, 31, 30, 31]

/-- The days from 0000-01-01 to the first day of a year: 365 for each year and one more for each
    leap year in between. -/
def daysBeforeYear (year : Int) : Int :=
  365 * year + (year + 3) / 4 - (year + 99) / 100 + (year + 399) / 400

/-- The days from the first day of a year to the first day of a month of it. -/
def daysBeforeMonth (leap : Bool) (month : Nat) : Nat :=
  ((monthLengths leap).take (month - 1)).foldl (· + ·) 0

/-- The day number of 1970-01-01 counted from 0000-01-01. -/
def epoch : Int := 719528

/-- The year that holds the `n`-th day from 0000-01-01. -/
def yearOf (n : Int) : Int :=
  let guess := n * 400 / 146097
  if daysBeforeYear (guess + 1) ≤ n then guess + 1
  else if daysBeforeYear guess ≤ n then guess
  else guess - 1

/-- Month and day of the `n`-th day (from 0) of months of the given lengths, the first of which
    has the number `month`. -/
def monthDay (month : Nat) : List Nat → Nat → Nat × Nat
  | [], n            => (month, n + 1)
  | len :: later, n  => if n < len then (month, n + 1) else monthDay (month + 1) later (n - len)

end Calendar

namespace Date

open Calendar

/-- Whether the day exists. -/
def isValid (d : Date) : Bool :=
  1 ≤ d.month && 1 ≤ d.day && d.day ≤ (monthLengths (isLeap d.year)).getD (d.month - 1) 0

/-- Days from 1970-01-01. -/
def dayNumber (d : Date) : Int :=
  daysBeforeYear d.year + daysBeforeMonth (isLeap d.year) d.month + d.day - 1 - epoch

/-- The date of a day counted from 1970-01-01. -/
def ofDayNumber (n : Int) : Date :=
  let days := n + epoch
  let year := yearOf days
  let (month, day) := monthDay 1 (monthLengths (isLeap year)) (days - daysBeforeYear year).toNat
  ⟨year, month, day⟩

/-- The first day of the calendar's range. -/
def first : Date := ⟨-262143, 1, 1⟩

/-- The last day of the calendar's range. -/
def last : Date := ⟨262142, 12, 31⟩

/-- The date of the given year, month and day, if it exists and lies in the calendar's range. -/
def of? (year : Int) (month day : Nat) : Option Date :=
  let d : Date := ⟨year, month, day⟩
  if d.isValid && first.year ≤ year && year ≤ last.year then some d else none

end Date

end Postbox
