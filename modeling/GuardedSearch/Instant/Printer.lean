import GuardedSearch.Instant.Basic

/-!
# Printing instants

An instant prints in UTC as `YYYY-MM-DDThh:mm:ss+00:00`, with 3, 6 or 9 digits of a fraction where
the nanoseconds need them. A year outside 0 to 9999 has a sign and at least four digits. A leap
second prints as second 60.
-/

namespace GuardedSearch.Instant

/-- A number with at least `width` digits. -/
def padded (width n : Nat) : List Char :=
  let digits := Nat.toDigits 10 n
  List.replicate (width - digits.length) '0' ++ digits

/-- The year of a date. -/
def yearChars (year : Int) : List Char :=
  if 0 ≤ year ∧ year ≤ 9999 then padded 4 year.toNat
  else (if year < 0 then '-' else '+') :: padded 4 year.natAbs

/-- A date with dashes. -/
def dayChars (d : CalendarDay) : List Char :=
  yearChars d.year ++ '-' :: padded 2 d.month ++ '-' :: padded 2 d.day

/-- The fraction of a second in the fewest of 0, 3, 6 and 9 digits that are exact. -/
def fractionChars (nanos : Nat) : List Char :=
  if nanos = 0 then []
  else if nanos % 1000000 = 0 then '.' :: padded 3 (nanos / 1000000)
  else if nanos % 1000 = 0 then '.' :: padded 6 (nanos / 1000)
  else '.' :: padded 9 nanos

/-- The written form of an instant. -/
def toChars (t : Instant) : List Char :=
  let s := t.secondOfDay
  let leap := t.nanosecond / nanosPerSecond
  dayChars t.day ++ 'T' :: padded 2 (s / 3600) ++ ':' :: padded 2 (s / 60 % 60) ++
    ':' :: padded 2 (s % 60 + leap) ++ fractionChars (t.nanosecond % nanosPerSecond) ++
    ['+', '0', '0', ':', '0', '0']

/-- The written form of an instant. -/
def toText (t : Instant) : String :=
  String.ofList t.toChars

end GuardedSearch.Instant
