import GuardedSearch.Calendar

/-!
# Instants

An instant is a second counted from the start of 1970 in UTC and nanoseconds within it. A leap
second is kept as a second that lasts up to two thousand million nanoseconds, so it lies after all
other instants of the second before it.
-/

namespace GuardedSearch

/-- A point in time. -/
structure Instant where
  second : Int
  nanosecond : Nat
  deriving DecidableEq, Repr

namespace Instant

/-- The number of seconds in a day without a leap second. -/
def secondsPerDay : Int := 86400

/-- The number of nanoseconds in a second. -/
def nanosPerSecond : Nat := 1000000000

/-- The day in UTC that the instant lies in. -/
def day (t : Instant) : CalendarDay :=
  CalendarDay.ofNumber (t.second / secondsPerDay)

/-- The seconds since the start of the day. -/
def secondOfDay (t : Instant) : Nat :=
  (t.second % secondsPerDay).toNat

/-- Compares two instants in time. -/
def compare (s t : Instant) : Ordering :=
  (Ord.compare s.second t.second).then (Ord.compare s.nanosecond t.nanosecond)

/-- The start of a day in UTC. -/
def ofDay (d : CalendarDay) : Instant :=
  ⟨d.number * secondsPerDay, 0⟩

/-- Whether a day number lies in the years that dates may lie in. -/
def inYearRange (dayNumber : Int) : Bool :=
  CalendarDay.number ⟨CalendarDay.yearRange.1, 1, 1⟩ ≤ dayNumber &&
    dayNumber ≤ CalendarDay.number ⟨CalendarDay.yearRange.2, 12, 31⟩

/-- The instant so many milliseconds after the start of 1970. -/
def ofMilliseconds? (ms : Int) : Option Instant :=
  if inYearRange (ms / (1000 * secondsPerDay)) then
    some ⟨ms / 1000, (ms % 1000).toNat * 1000000⟩
  else
    none

end Instant

end GuardedSearch
