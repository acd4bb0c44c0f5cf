import StackSampler.Time.Calendar

/-!
# Instants

An instant is a moment in coordinated universal time: seconds from the start of 1970 and nanoseconds
within the second. A **leap second** prolongs a second: its `nanos` are a second or more. Any second can
be prolonged, although only the last one of a minute is ever written so.
-/

namespace StackSampler

/-- A moment in time. -/
structure Instant where
  seconds : Int
  nanos : Nat := 0
  deriving DecidableEq, Repr, Inhabited

namespace Instant

def epoch : Instant := ⟨0, 0⟩

def secondsPerDay : Int := 86400

def second : Nat := 1000000000

/-- Days from the start of year 0 to the start of 1970. -/
def epochDay : Int := 719528

/-- The day of an instant, counted from the start of year 0. -/
def dayNumber (t : Instant) : Int := t.seconds / secondsPerDay + epochDay

/-- Seconds since midnight. -/
def secondOfDay (t : Instant) : Nat := (t.seconds % secondsPerDay).toNat

def date (t : Instant) : Date := Date.ofDays t.dayNumber

/-- The first and the last year that an instant may fall in. -/
def firstYear : Int := -262143

def lastYear : Int := 262142

/-- Whether an instant's year is within the supported range. -/
def inRange (t : Instant) : Bool :=
  Calendar.daysBefore firstYear ≤ t.dayNumber && t.dayNumber < Calendar.daysBefore (lastYear + 1)

/-- The start of second `secondOfDay` of a date. -/
def ofDate (d : Date) (secondOfDay : Int) : Int :=
  (d.toDays - epochDay) * secondsPerDay + secondOfDay

/-- Moves an instant by `delta` nanoseconds. Within a leap second only the nanoseconds move; a step
out of it first ends the leap second. -/
def advance (t : Instant) (delta : Int) : Instant :=
  let wholeSeconds := Int.tdiv delta second
  let rest := Int.tmod delta second
  let move (seconds nanos : Int) : Instant :=
    let total := nanos + rest
    ⟨seconds + wholeSeconds + total / second, (total % second).toNat⟩
  if t.nanos < second then move t.seconds t.nanos
  else if 0 < wholeSeconds ∨ (0 < rest ∧ 2 * second - rest ≤ t.nanos) then
    move t.seconds (t.nanos - second)
  else if wholeSeconds < 0 then move (t.seconds + 1) (t.nanos - second)
  else ⟨t.seconds, (t.nanos + rest).toNat⟩

end Instant

end StackSampler
