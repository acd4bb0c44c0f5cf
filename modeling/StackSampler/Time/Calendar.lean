import StackSampler.Total

/-!
# The Gregorian calendar

Dates of the proleptic Gregorian calendar and the days between them, over all years: year 0 is the
year before year 1, and earlier years are negative. `Date.toDays` and `Date.ofDays` count days from
the first day of year 0.
-/

namespace StackSampler

/-- A calendar date; months and days of the month start at 1. -/
structure Date where
  year : Int
  month : Nat
  day : Nat
  deriving DecidableEq, Repr, Inhabited

namespace Calendar

/-- Every fourth year, but of the hundredth years only every fourth. -/
def isLeap (year : Int) : Bool := year % 4 = 0 && (year % 100 ≠ 0 || year % 400 = 0)

/-- The lengths of the months from January on. -/
def monthLengths (year : Int) : List Nat :=
  [31, if isLeap year then 29 else 28, 31, 30, 31, 30, 31, 31, 30, 31, 30, 31]

/-- Days from the first day of year 0 to the first day of `year`. -/
def daysBefore (year : Int) : Int :=
  365 * year + (year + 3) / 4 - (year + 99) / 100 + (year + 399) / 400

/-- The year that holds a day. Dividing by the mean length of a year is off by at most one. -/
def yearOf (days : Int) : Int :=
  let guess := days * 400 / 146097
  if days < daysBefore guess then guess - 1
  else if daysBefore (guess + 1) ≤ days then guess + 1
  else guess

/-- The month and day of the month that the day `n` (from 0) falls on, where months of the given
lengths follow each other from `month` on. -/
def splitMonths : List Nat → Nat → Nat → Nat × Nat
  | [], month, n => (month, n + 1)
  | len :: rest, month, n => if n < len then (month, n + 1) else splitMonths rest (month + 1) (n - len)

end Calendar

namespace Date

open Calendar

/-- Whether the calendar has this date. -/
def isValid (d : Date) : Bool :=
  1 ≤ d.month && 1 ≤ d.day && (monthLengths d.year)[d.month - 1]?.any (d.day ≤ ·)

def toDays (d : Date) : Int :=
  daysBefore d.year + total ((monthLengths d.year).take (d.month - 1)) + d.day - 1

def ofDays (days : Int) : Date :=
  let year := yearOf days
  let (month, day) := splitMonths (monthLengths year) 1 (days - daysBefore year).toNat
  ⟨year, month, day⟩

end Date

end StackSampler
