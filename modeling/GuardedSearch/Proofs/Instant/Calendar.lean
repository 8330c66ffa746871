import GuardedSearch.Instant.Basic
import Mathlib.Algebra.Ring.Nat

/-!
# The order of days

Days are numbered by adding up the lengths of what lies before them. The numbers follow the calendar
because no day lies beyond its month, no month beyond its year, and a year is as long as its months
together. A number of milliseconds denotes an instant if it lies in certain years, and there it has
less than 53 bits.

## Main results

* `CalendarDay.number_le_of_lex` — of two days, that with the later year, month or day has the
  greater number
* `Instant.natAbs_lt_of_ofMilliseconds?` — milliseconds that denote an instant are small
-/

namespace GuardedSearch

namespace CalendarDay

/-- The number of days in a year. -/
def yearLength (year : Int) : Int :=
  if isLeapYear year then 366 else 365

/-- The lengths of the months of a year with so many days in February. -/
def lengthsOf (february : Nat) : List Nat :=
  [31, february, 31, 30, 31, 30, 31, 31, 30, 31, 30, 31]

/-- The days of a year before the given month. -/
def daysBefore (february month : Nat) : Nat :=
  ((lengthsOf february).take (month - 1)).foldr (fun length days => length + days) 0

/-- The days in February. -/
def februaryOf (year : Int) : Nat :=
  if isLeapYear year then 29 else 28

theorem februaryOf_mem (year : Int) : februaryOf year ∈ [28, 29] := by
  rw [februaryOf]
  split <;> decide

/-! ### Lengths -/

/-- A month has ended before a later one begins. -/
theorem daysBeforeMonth_add_le (year : Int) {m n : Nat} (hm : 1 ≤ m) (hmn : m < n) (hn : n ≤ 12) :
    daysBeforeMonth year m + (monthLengths year).getD (m - 1) 0 ≤ daysBeforeMonth year n := by
  have hlengths : ∀ february ∈ [28, 29], ∀ n ≤ 12, ∀ m < n, 1 ≤ m →
      daysBefore february m + (lengthsOf february).getD (m - 1) 0 ≤ daysBefore february n := by
    decide +kernel
  exact hlengths _ (februaryOf_mem year) n hn m hmn hm

/-- No month ends after its year. -/
theorem daysBeforeMonth_add_le_yearLength (year : Int) {m : Nat} (hm : 1 ≤ m) (hle : m ≤ 12) :
    ((daysBeforeMonth year m + (monthLengths year).getD (m - 1) 0 : Nat) : Int) ≤
      yearLength year := by
  have hlengths : ∀ february ∈ [28, 29], ∀ m ≤ 12, 1 ≤ m →
      daysBefore february m + (lengthsOf february).getD (m - 1) 0 ≤ 337 + february := by
    decide +kernel
  have hyear : yearLength year = (337 + februaryOf year : Nat) := by
    rw [yearLength, februaryOf]
    split <;> rfl
  rw [hyear]
  exact Int.ofNat_le.mpr (hlengths _ (februaryOf_mem year) m hle hm)

/-- A year has ended before a later one begins. -/
theorem daysBeforeYear_add_le {y z : Int} (h : y < z) :
    daysBeforeYear y + yearLength y ≤ daysBeforeYear z := by
  simp only [daysBeforeYear, yearLength, isLeapYear, decide_eq_true_eq]
  split <;> omega

/-! ### Numbers -/

variable {d e : CalendarDay}

theorem number_lt_of_year_lt (hd : d.IsValid) (he : e.IsValid) (h : d.year < e.year) :
    d.number < e.number := by
  obtain ⟨-, -, hmonth, hmonth', -, hday⟩ := hd
  obtain ⟨-, -, -, -, hday', -⟩ := he
  have hyear := daysBeforeYear_add_le h
  have hlength := daysBeforeMonth_add_le_yearLength d.year hmonth hmonth'
  rw [number, number]
  omega

theorem number_lt_of_month_lt (hd : d.IsValid) (he : e.IsValid) (hyear : d.year = e.year)
    (h : d.month < e.month) : d.number < e.number := by
  obtain ⟨-, -, hmonth, -, -, hday⟩ := hd
  obtain ⟨-, -, -, hmonth', hday', -⟩ := he
  have hlength := daysBeforeMonth_add_le d.year hmonth h hmonth'
  rw [number, number, ← hyear]
  omega

/-- **Days are numbered in the order of their years, months and days.** -/
theorem number_le_of_lex (hd : d.IsValid) (he : e.IsValid) (hyear : d.year ≤ e.year)
    (hmonth : d.year = e.year → d.month ≤ e.month)
    (hday : d.year = e.year → d.month = e.month → d.day ≤ e.day) :
    d.number < e.number ∨ d = e := by
  rcases Int.lt_or_eq_of_le hyear with hlt | heq
  · exact .inl (number_lt_of_year_lt hd he hlt)
  · rcases Nat.lt_or_eq_of_le (hmonth heq) with hlt' | heq'
    · exact .inl (number_lt_of_month_lt hd he heq hlt')
    · rcases Nat.lt_or_eq_of_le (hday heq heq') with hlt'' | heq''
      · left
        rw [number, number, heq, heq']
        omega
      · right
        obtain ⟨year, month, day⟩ := d
        obtain ⟨year', month', day'⟩ := e
        simp_all

end CalendarDay

namespace Instant

/-- One instant is before another one. -/
theorem compare_eq_lt_iff {s t : Instant} : s.compare t = .lt ↔
    s.second < t.second ∨ s.second = t.second ∧ s.nanosecond < t.nanosecond := by
  rw [compare, Ordering.then_eq_lt, Int.compare_eq_lt, Std.compare_eq_iff_eq,
    Nat.compare_eq_lt]

/-- One instant is not after another one. -/
def NotAfter (s t : Instant) : Prop :=
  s.second < t.second ∨ s.second = t.second ∧ s.nanosecond ≤ t.nanosecond

theorem compare_eq_lt_of_notAfter {s t u : Instant} (hle : s.NotAfter t) (hlt : t.compare u = .lt) :
    s.compare u = .lt := by
  rw [compare_eq_lt_iff] at *
  rw [NotAfter] at hle
  omega

/-! ### Milliseconds -/

/-- Milliseconds that denote an instant are small enough to be doubles. -/
theorem natAbs_lt_of_ofMilliseconds? {ms : Int} {t : Instant} (h : ofMilliseconds? ms = some t) :
    ms.natAbs < 2 ^ 53 := by
  rw [ofMilliseconds?] at h
  split at h
  case isTrue hrange =>
    have hfirst : CalendarDay.number ⟨CalendarDay.yearRange.1, 1, 1⟩ = -96465292 := by
      decide +kernel
    have hlast : CalendarDay.number ⟨CalendarDay.yearRange.2, 12, 31⟩ = 95026236 := by
      decide +kernel
    simp only [inYearRange, Bool.and_eq_true, decide_eq_true_eq, hfirst, hlast, secondsPerDay]
      at hrange
    omega
  case isFalse => cases h

/-- More milliseconds denote a later instant. -/
theorem notAfter_of_ofMilliseconds? {m n : Int} {s t : Instant} (hs : ofMilliseconds? m = some s)
    (ht : ofMilliseconds? n = some t) (h : m ≤ n) : s.NotAfter t := by
  have hfields : ∀ {ms : Int} {u : Instant}, ofMilliseconds? ms = some u →
      u = ⟨ms / 1000, (ms % 1000).toNat * 1000000⟩ := fun hu => by
    rw [ofMilliseconds?] at hu
    split at hu
    · exact (Option.some.inj hu).symm
    · cases hu
  rw [hfields hs, hfields ht, NotAfter]
  simp only []
  omega

end Instant

end GuardedSearch
