/-!
# The calendar

Days of the proleptic Gregorian calendar, with a year zero and negative years, and their numbers
counted from 1 January 1970.

## Main definitions

* `CalendarDay`, `CalendarDay.IsValid`: a year, a month and a day, and whether there is such a day.
* `CalendarDay.number`, `CalendarDay.ofNumber`: the count of days and back.
-/

namespace GuardedSearch

/-- A year, a month counted from one and a day counted from one. -/
structure CalendarDay where
  year : Int
  month : Nat
  day : Nat
  deriving DecidableEq, Repr

namespace CalendarDay

/-- Every fourth year is a leap year, but of the full centuries only every fourth one. -/
def isLeapYear (year : Int) : Bool :=
  year % 4 = 0 ∧ (year % 100 ≠ 0 ∨ year % 400 = 0)

/-- The lengths of the months of a year. -/
def monthLengths (year : Int) : List Nat :=
  [31, if isLeapYear year then 29 else 28, 31, 30, 31, 30, 31, 31, 30, 31, 30, 31]

/-- The years that dates may lie in. -/
def yearRange : Int × Int := (-262143, 262142)

/-- Whether the calendar has the day, within the years that dates may lie in. -/
def IsValid (d : CalendarDay) : Prop :=
  yearRange.1 ≤ d.year ∧ d.year ≤ yearRange.2 ∧ 1 ≤ d.month ∧ d.month ≤ 12 ∧ 1 ≤ d.day ∧
    d.day ≤ (monthLengths d.year).getD (d.month - 1) 0

instance (d : CalendarDay) : Decidable d.IsValid :=
  inferInstanceAs (Decidable (_ ∧ _))

/-- The number of days from 1 January of the year 1 to that of the given year. -/
def daysBeforeYear (year : Int) : Int :=
  365 * (year - 1) + (year - 1) / 4 - (year - 1) / 100 + (year - 1) / 400

/-- The number of days from 1 January of the year 1 to 1 January 1970. -/
def daysBefore1970 : Int := 719162

/-- The number of days in a year before the given month. -/
def daysBeforeMonth (year : Int) (month : Nat) : Nat :=
  ((monthLengths year).take (month - 1)).foldr (fun length days => length + days) 0

/-- The days from 1 January 1970 to the given day. -/
def number (d : CalendarDay) : Int :=
  daysBeforeYear d.year + daysBeforeMonth d.year d.month + d.day - 1 - daysBefore1970

/-- The month and the day in it for a number of days from the start of the year; `month` is the
month that the first of the given lengths belongs to. -/
def monthAndDay (month : Nat) : (lengths : List Nat) → (days : Nat) → Nat × Nat
  | [], days => (month, days + 1)
  | length :: lengths, days =>
    if days < length then (month, days + 1) else monthAndDay (month + 1) lengths (days - length)

/-- The day with a given number. The years of a cycle of 400 are found century by century, then four
by four; the last day of a long century or of four years belongs to the year before. -/
def ofNumber (n : Int) : CalendarDay :=
  let days := n + daysBefore1970
  let inCycle := (days % 146097).toNat
  let century := min (inCycle / 36524) 3
  let inCentury := inCycle - century * 36524
  let fours := inCentury / 1461
  let inFour := inCentury - fours * 1461
  let years := min (inFour / 365) 3
  let year : Int := 400 * (days / 146097) + (100 * century + 4 * fours + years + 1 : Nat)
  let (month, day) := monthAndDay 1 (monthLengths year) (inFour - years * 365)
  ⟨year, month, day⟩

example : number ⟨1970, 1, 1⟩ = 0 := by decide
example : number ⟨2024, 2, 29⟩ = 19782 := by decide
example : ofNumber 19782 = ⟨2024, 2, 29⟩ := by decide
example : ofNumber (-719529) = ⟨-1, 12, 31⟩ := by decide

end CalendarDay

end GuardedSearch
