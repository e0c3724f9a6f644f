/-!
# Days of the calendar

A day is a number: the days since 1 January of the year 0 in the Gregorian calendar, extended
backwards and forwards without end. `Civil.ofDay` gives the year, month and day that a day is
written with, `Civil.toDay?` the day of a date, if the year has such a date.

The year of a day is guessed from the mean length of a year, which is off by at most one; the
month is found by going through the lengths of the months.
-/

namespace Fairweather

namespace Calendar

/-- The days from 1 January of the year 0 to 1 January of `year`. -/
def yearStart (year : Int) : Int :=
  365 * year + (year + 3) / 4 - (year + 99) / 100 + (year + 399) / 400

/-- Every fourth year has a day more, but of the full centuries only every fourth. -/
def isLeapYear (year : Int) : Bool := year % 4 = 0 && (year % 100 ≠ 0 || year % 400 = 0)

/-- The days of each month, January first. -/
def monthLengths (year : Int) : List Nat :=
  [31, if isLeapYear year then 29 else 28, 31, 30, 31, 30, 31, 31, 30, 31, 30, 31]

/-- The year that a day lies in: 400 years have 146097 days. -/
def yearOf (day : Int) : Int :=
  let guess := day * 400 / 146097
  if day < yearStart guess then guess - 1
  else if yearStart (guess + 1) ≤ day then guess + 1
  else guess

/-- The whole months before a day of the year, and the days after them. -/
def splitMonths : List Nat → Nat → Nat × Nat
  | [], days => (0, days)
  | length :: rest, days =>
    if days < length then (0, days)
    else
      let (months, left) := splitMonths rest (days - length)
      (months + 1, left)

/-- The first day that a timestamp can have: 1 January of the year -262143. -/
def firstDay : Int := yearStart (-262143)

/-- The last day that a timestamp can have: 31 December of the year 262142. -/
def lastDay : Int := yearStart 262143 - 1

end Calendar

/-- A date as it is written; months and days count from one. -/
structure Civil where
  year : Int
  month : Nat
  day : Nat
deriving DecidableEq

namespace Civil

open Calendar

/-- The date of a day. -/
def ofDay (day : Int) : Civil :=
  let year := yearOf day
  let (months, days) := splitMonths (monthLengths year) (day - yearStart year).toNat
  ⟨year, months + 1, days + 1⟩

/-- The day of a date, if its month has such a day. -/
def toDay? (date : Civil) : Option Int :=
  match date.month, date.day with
  | months + 1, days + 1 =>
    match (monthLengths date.year)[months]? with
    | some length =>
      if days < length then
        let before : Nat := ((monthLengths date.year).take months).foldr (· + ·) 0
        some (yearStart date.year + before + days)
      else none
    | none => none
  | _, _ => none

end Civil

end Fairweather
