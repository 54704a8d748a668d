/-
  Days of the calendar that is in use today, carried on into
  all years.

  Key definitions include:
    * `Date`
    * `Date.daysIn`
    * `Date.isValid`
    * `Date.next`
    * `Date.previous`
    * `Date.afterEpoch`
-/

namespace Gleaner

/- A day. -/
structure Date where
  year : Int
  month : Nat
  day : Nat
deriving DecidableEq, Repr

namespace Date

/- A year with a day between February and March. -/
def isLeap (year : Int) : Bool :=
  year % 4 == 0 && (year % 100 != 0 || year % 400 == 0)

/- The number of days of a month. -/
def daysIn (year : Int) (month : Nat) : Nat :=
  if month == 2 then if isLeap year then 29 else 28
  else if [4, 6, 9, 11].contains month then 30
  else 31

/- The first and the last year. -/
def firstYear : Int := -262143
def lastYear : Int := 262142

/- The day is in the calendar. -/
def isValid (d : Date) : Bool :=
  firstYear ≤ d.year && d.year ≤ lastYear &&
    1 ≤ d.month && d.month ≤ 12 &&
    1 ≤ d.day && d.day ≤ daysIn d.year d.month

/- The day after a day. -/
def next (d : Date) : Date :=
  if d.day < daysIn d.year d.month then { d with day := d.day + 1 }
  else if d.month < 12 then ⟨d.year, d.month + 1, 1⟩
  else ⟨d.year + 1, 1, 1⟩

/- The day before a day. -/
def previous (d : Date) : Date :=
  if 1 < d.day then { d with day := d.day - 1 }
  else if 1 < d.month then
    ⟨d.year, d.month - 1, daysIn d.year (d.month - 1)⟩
  else ⟨d.year - 1, 12, 31⟩

/- The first day of the year 1970. -/
def epoch : Date :=
  ⟨1970, 1, 1⟩

/- The day that is some days behind the epoch. -/
def afterEpoch : Nat → Date
  | 0 => epoch
  | days + 1 => (afterEpoch days).next

end Date

end Gleaner
