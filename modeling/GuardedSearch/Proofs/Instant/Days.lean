import GuardedSearch.Proofs.Instant.Calendar
import Mathlib.Data.List.Basic

/-!
# Days by their numbers

A day is found by its number in three steps: the cycle of 400 years that it lies in, the year of the
cycle, and the month of the year. Each count is the greatest that fits, so adding up the days that
the counts stand for gives the number again. Two of them have a bound of their own, without which
the last day of a long century, or of four years, would begin another century or year; so these days
stay in the year before, and they are the ones that make it a leap year.

## Main definitions

* `Instant.HasFourDigitYear` — the instants that are written without a sign before the year

## Main results

* `CalendarDay.number_ofNumber` — a day found by its number has that number
* `CalendarDay.isValid_ofNumber` — it is a day of the calendar, if its year is one
-/

namespace GuardedSearch

namespace CalendarDay

/-! ### Days of a year -/

/-- How many days there are in months of the given lengths. -/
def daysIn (lengths : List Nat) : Nat :=
  lengths.foldr (fun length days => length + days) 0

theorem daysIn_monthLengths (year : Int) :
    (daysIn (monthLengths year) : Int) = yearLength year := by
  rw [yearLength, monthLengths]
  split <;> rfl

/-- No month has more than 31 days. -/
theorem getD_monthLengths_le (year : Int) (i : Nat) : (monthLengths year).getD i 0 ≤ 31 := by
  have hlengths : ∀ february ∈ [28, 29], ∀ length ∈ lengthsOf february, length ≤ 31 := by decide
  rw [List.getD_eq_getElem?_getD]
  cases hi : (monthLengths year)[i]? with
  | none => exact Nat.zero_le 31
  | some length => exact hlengths _ (februaryOf_mem year) length (List.mem_of_getElem? hi)

/-- A day of the year lies in one of the months, behind the days of the months before it. -/
theorem exists_monthAndDay {lengths : List Nat} {days : Nat} (month : Nat)
    (h : days < daysIn lengths) :
    ∃ i day, monthAndDay month lengths days = (month + i, day) ∧ i < lengths.length ∧ 1 ≤ day ∧
      day ≤ lengths.getD i 0 ∧ daysIn (lengths.take i) + day = days + 1 := by
  induction lengths generalizing month days with
  | nil => cases h
  | cons length lengths ih =>
    rw [monthAndDay]
    by_cases hlt : days < length
    · rw [if_pos hlt]
      exact ⟨0, days + 1, rfl, Nat.succ_pos _, Nat.succ_pos _, hlt, Nat.zero_add _⟩
    · have hdays : days < length + daysIn lengths := h
      obtain ⟨i, day, hread, hi, hpos, hle, hsum⟩ :=
        ih (month + 1) (show days - length < daysIn lengths by omega)
      rw [if_neg hlt, hread]
      refine ⟨i + 1, day, ?_, Nat.succ_lt_succ hi, hpos, hle, ?_⟩
      · rw [Nat.add_right_comm, Nat.add_assoc]
      · show length + daysIn (lengths.take i) + day = days + 1
        omega

/-! ### Years of a cycle -/

/-- The counts for a day of the cycle, and the days that are left for its year. There are 365 of
them only behind three full years, and behind 24 times four years only in the last century. -/
theorem cycle_counts {inCycle century inCentury fours inFour years days : Nat}
    (hcycle : inCycle < 146097) (hcentury : century = min (inCycle / 36524) 3)
    (hinCentury : inCentury = inCycle - century * 36524) (hfours : fours = inCentury / 1461)
    (hinFour : inFour = inCentury - fours * 1461) (hyears : years = min (inFour / 365) 3)
    (hdays : days = inFour - years * 365) :
    (century ≤ 3 ∧ fours ≤ 24 ∧ years ≤ 3) ∧
      inCycle = 36524 * century + 1461 * fours + 365 * years + days ∧
      days ≤ 365 ∧ (days = 365 → years = 3 ∧ (fours = 24 → century = 3)) := by
  have hinCentury' : inCycle = 36524 * century + inCentury ∧ century ≤ 3 ∧ inCentury ≤ 36524 ∧
      (inCentury = 36524 → century = 3) := by
    omega
  have hinFour' : inCentury = 1461 * fours + inFour ∧ inFour ≤ 1460 := by omega
  have hdays' : inFour = 365 * years + days ∧ years ≤ 3 ∧ days ≤ 365 ∧
      (days = 365 → years = 3) := by
    omega
  clear hcentury hinCentury hfours hinFour hyears hdays
  omega

variable {century fours years : Nat}

/-- The days before a year of a cycle are those of the cycles, centuries, four years and years that
have passed. -/
theorem daysBeforeYear_cycle (cycle : Int) (hcentury : century ≤ 3) (hfours : fours ≤ 24)
    (hyears : years ≤ 3) :
    daysBeforeYear (400 * cycle + (100 * century + 4 * fours + years + 1 : Nat)) =
      146097 * cycle + (36524 * century + 1461 * fours + 365 * years : Nat) := by
  rw [daysBeforeYear]
  omega

/-- Every fourth year is a leap year, except for the last one of a century that is not the last. -/
theorem yearLength_cycle (cycle : Int) (hcentury : century ≤ 3) (hfours : fours ≤ 24)
    (hyears : years ≤ 3) :
    yearLength (400 * cycle + (100 * century + 4 * fours + years + 1 : Nat)) =
      if years = 3 ∧ (fours = 24 → century = 3) then 366 else 365 := by
  have hleap : isLeapYear (400 * cycle + (100 * century + 4 * fours + years + 1 : Nat)) = true ↔
      years = 3 ∧ (fours = 24 → century = 3) := by
    rw [isLeapYear, decide_eq_true_iff]
    omega
  rw [yearLength]
  exact if_congr hleap rfl rfl

/-- The counts for a number of days give a year, and what is left is a day of that year. -/
theorem dayOfYear_of_counts {n : Int} {inCycle inCentury inFour days : Nat}
    (hcycle : inCycle = (n % 146097).toNat) (hcentury : century = min (inCycle / 36524) 3)
    (hinCentury : inCentury = inCycle - century * 36524) (hfours : fours = inCentury / 1461)
    (hinFour : inFour = inCentury - fours * 1461) (hyears : years = min (inFour / 365) 3)
    (hdays : days = inFour - years * 365) :
    daysBeforeYear (400 * (n / 146097) + (100 * century + 4 * fours + years + 1 : Nat)) + days = n ∧
      days < yearLength (400 * (n / 146097) + (100 * century + 4 * fours + years + 1 : Nat)) := by
  have hlt : inCycle < 146097 := by omega
  obtain ⟨⟨hcentury', hfours', hyears'⟩, hsum, hle, hlast⟩ :=
    cycle_counts hlt hcentury hinCentury hfours hinFour hyears hdays
  clear hcentury hinCentury hfours hinFour hyears hdays
  rw [daysBeforeYear_cycle _ hcentury' hfours' hyears',
    yearLength_cycle _ hcentury' hfours' hyears']
  refine ⟨by omega, ?_⟩
  by_cases hleap : years = 3 ∧ (fours = 24 → century = 3)
  · rw [if_pos hleap]
    omega
  · have hne : days ≠ 365 := fun heq => hleap (hlast heq)
    rw [if_neg hleap]
    omega

theorem exists_dayOfYear (n : Int) : ∃ year days,
    ofNumber n = ⟨year, (monthAndDay 1 (monthLengths year) days).1,
      (monthAndDay 1 (monthLengths year) days).2⟩ ∧
    daysBeforeYear year + days = n + daysBefore1970 ∧ (days : Int) < yearLength year :=
  ⟨_, _, rfl, dayOfYear_of_counts rfl rfl rfl rfl rfl rfl rfl⟩

/-! ### Days -/

/-- What is found for a number is a year, a month of it and a day of that, with the right number of
days before. -/
theorem ofNumber_counts (n : Int) :
    (1 ≤ (ofNumber n).month ∧ (ofNumber n).month ≤ 12) ∧
    (1 ≤ (ofNumber n).day ∧
      (ofNumber n).day ≤ (monthLengths (ofNumber n).year).getD ((ofNumber n).month - 1) 0) ∧
    (ofNumber n).number = n := by
  obtain ⟨year, days, hday, hnumber, hlt⟩ := exists_dayOfYear n
  have hdays : days < daysIn (monthLengths year) := by
    rw [← daysIn_monthLengths] at hlt
    exact Int.ofNat_lt.mp hlt
  obtain ⟨i, day, hread, hi, hpos, hle, hsum⟩ := exists_monthAndDay 1 hdays
  have hmonths : i < 12 := hi
  have hindex : 1 + i - 1 = i := Nat.add_sub_cancel_left 1 i
  have hbefore : daysBeforeMonth year (1 + i) = daysIn ((monthLengths year).take i) := by
    rw [daysBeforeMonth, hindex, daysIn]
  rw [hday, hread]
  dsimp only
  refine ⟨by omega, ⟨hpos, by rwa [hindex]⟩, ?_⟩
  show daysBeforeYear year + daysBeforeMonth year (1 + i) + day - 1 - daysBefore1970 = n
  rw [hbefore]
  omega

/-- **A day found by its number has that number.** -/
theorem number_ofNumber (n : Int) : (ofNumber n).number = n :=
  (ofNumber_counts n).2.2

theorem isValid_ofNumber {n : Int} (hfirst : yearRange.1 ≤ (ofNumber n).year)
    (hlast : (ofNumber n).year ≤ yearRange.2) : (ofNumber n).IsValid := by
  obtain ⟨⟨hmonth, hmonth'⟩, ⟨hday, hday'⟩, -⟩ := ofNumber_counts n
  exact ⟨hfirst, hlast, hmonth, hmonth', hday, hday'⟩

end CalendarDay

namespace Instant

/-- The year of the instant in UTC is one of 0 to 9999. -/
def HasFourDigitYear (t : Instant) : Prop :=
  0 ≤ t.day.year ∧ t.day.year ≤ 9999

instance (t : Instant) : Decidable t.HasFourDigitYear :=
  inferInstanceAs (Decidable (_ ∧ _))

end Instant

end GuardedSearch
