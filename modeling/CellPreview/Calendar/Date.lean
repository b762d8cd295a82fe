/-!
# Calendar dates

Dates of the proleptic Gregorian calendar, numbered by days from the first of
January 1970. The number of a date is the number of days in the years before
it, in the months before it and in its own month.
-/

namespace CellPreview
namespace Calendar

/-- Whether a year has 366 days. -/
def isLeap (year : Int) : Bool :=
  year % 4 = 0 && (year % 100 ≠ 0 || year % 400 = 0)

/-- Number of days in a month of a year, and none outside the twelve. -/
def daysInMonth (year : Int) (month : Nat) : Nat :=
  match month with
  | 1 | 3 | 5 | 7 | 8 | 10 | 12 => 31
  | 4 | 6 | 9 | 11 => 30
  | 2 => if isLeap year then 29 else 28
  | _ => 0

/-- A year, a month and a day of the month. -/
structure Date where
  year : Int
  month : Nat
  day : Nat
  deriving DecidableEq

namespace Date

/-- Whether the month has the day and the year is in the supported range. -/
def isValid (date : Date) : Bool :=
  -262143 ≤ date.year && date.year ≤ 262142 &&
    1 ≤ date.day && date.day ≤ daysInMonth date.year date.month

/-- Days in all years before the given one, counted from the year 1. -/
def daysBeforeYear (year : Int) : Int :=
  let past := year - 1
  365 * past + past / 4 - past / 100 + past / 400

/-- Days in the months of a year before the given one. -/
def daysBeforeMonth (year : Int) : Nat -> Nat
  | 0 => 0
  | month + 1 => daysBeforeMonth year month + daysInMonth year month

/-- Days from the first of January 1970 to the date. -/
def dayNumber (date : Date) : Int :=
  daysBeforeYear date.year + daysBeforeMonth date.year date.month +
    date.day - 719163

end Date

/-- Milliseconds in a day. -/
def millisPerDay : Int := 86400000

end Calendar
end CellPreview
