import GuardedSearch.Instant.Printer
import GuardedSearch.Proofs.Double.Reading
import GuardedSearch.Proofs.Instant.Days
import GuardedSearch.Proofs.Instant.Forms

/-!
# Printed instants

An instant is printed as a timestamp, but not every year can be. A timestamp has four digits for the
year, and a year before 0 or after 9999 is printed with a sign. No timestamp begins with a sign; a
date may, but has no time of day after it. So the printed form of such an instant is not read at
all, and that of every other one is read as the same instant.

For this an instant must be one of the clock: what has been read or counted in milliseconds lasts no
longer than a leap second, and has that length only at the end of a minute.

## Main definitions

* `Instant.OnClock` — the instants that can be read from a clock

## Main results

* `Instant.onClock_of_ofText?`, `Instant.onClock_of_ofMilliseconds?` — where instants come from
* `Instant.timestamp_toChars` — the printed form is a timestamp
* `Instant.ofText?_toText` — which printed instants are read back
-/

namespace GuardedSearch.Instant

open Text (ofDigits)

/-- No second lasts longer than two seconds, and only the last one of a minute lasts longer than
one. -/
structure OnClock (t : Instant) : Prop where
  nanosecond_lt : t.nanosecond < 2 * nanosPerSecond
  last_of_minute : nanosPerSecond ≤ t.nanosecond → t.second % 60 = 59

variable {cs : List Char} {n width : Nat} {t : Instant}

/-! ### Where instants come from -/

theorem Fraction.lt (h : Fraction cs n) : n < nanosPerSecond := by
  cases h with
  | none => decide
  | @some ds n digits =>
    have hlt : n < 10 ^ ds.length :=
      digits.value ▸ Text.ofDigits_lt (List.all_eq_true.mp digits.digits)
    rw [Nat.div_lt_iff_lt_mul (Nat.pow_pos (by decide)), Nat.mul_comm nanosPerSecond]
    exact Nat.mul_lt_mul_of_pos_right hlt (by decide)

/-- Offsets are whole minutes. -/
theorem Offset.mod_sixty {offset : Int} (h : Offset cs offset) : offset % 60 = 0 := by
  cases h with
  | utc => rfl
  | ahead => omega
  | behind => omega

theorem onClock_of_lt (h : t.nanosecond < nanosPerSecond) : t.OnClock where
  nanosecond_lt := by omega
  last_of_minute := fun hle => absurd hle (Nat.not_le.mpr h)

theorem Timestamp.onClock (h : Timestamp cs t) : t.OnClock := by
  obtain ⟨-, -, @⟨_, _, _, _, h, m, s, nanos, -, -, -, fraction, -, -, -⟩, ahead⟩ := h
  have hnanos := fraction.lt
  have hminutes := ahead.mod_sixty
  by_cases hleap : s = 60
  · rw [if_pos hleap, hleap, secondsPerDay]
    refine ⟨?_, fun _ => ?_⟩
    · show nanos + nanosPerSecond < 2 * nanosPerSecond
      omega
    · dsimp only
      omega
  · rw [if_neg hleap]
    exact onClock_of_lt hnanos

/-- **What is read is an instant of the clock.** -/
theorem onClock_of_ofText? {s : String} (h : ofText? s = some t) : t.OnClock := by
  rcases ofText?_eq_some_iff.mp h with h | ⟨d, -, rfl⟩
  · exact h.onClock
  · exact onClock_of_lt (show 0 < nanosPerSecond by decide)

theorem onClock_of_ofMilliseconds? {ms : Int} (h : ofMilliseconds? ms = some t) : t.OnClock := by
  rw [ofMilliseconds?] at h
  split at h
  case isTrue =>
    obtain rfl := Option.some.inj h
    refine onClock_of_lt ?_
    show (ms % 1000).toNat * 1000000 < 1000000000
    omega
  case isFalse => cases h

/-! ### Printed parts -/

theorem isDigit_of_mem_padded {c : Char} (hc : c ∈ padded width n) : c.isDigit = true := by
  rcases List.mem_append.mp hc with hc | hc
  · exact Decimal.isDigit_of_mem_zeros hc
  · exact Nat.isDigit_of_mem_toDigits (by decide) (by decide) hc

/-- A number that is not too long is filled up to the width. -/
theorem numeral_padded (hpos : 0 < width) (h : n < 10 ^ width) :
    Numeral width width (padded width n) n := by
  have hlength : (padded width n).length = width := by
    have hdigits := (Nat.length_toDigits_le_iff (by decide) hpos).mpr h
    rw [padded, List.length_append, List.length_replicate]
    omega
  have hvalue : ofDigits (padded width n) = n :=
    (Decimal.ofDigits_zeros_append _ _).trans Nat.ofDigitChars_ten_toDigits
  exact ⟨List.all_eq_true.mpr fun _ hc => isDigit_of_mem_padded hc, hlength.ge, hlength.le, hvalue⟩

theorem fraction_padded {m : Nat} (hpos : 0 < width) (hle : width ≤ 9)
    (hnanos : m * 10 ^ (9 - width) = n) (h : n < nanosPerSecond) :
    Fraction ('.' :: padded width m) n := by
  have hsecond : nanosPerSecond = 10 ^ (9 - width) * 10 ^ width :=
    (Nat.pow_sub_mul_pow 10 hle).symm
  have hlt : m < 10 ^ width := by
    rw [← hnanos, hsecond, Nat.mul_comm] at h
    exact Nat.lt_of_mul_lt_mul_left h
  obtain ⟨hdigits, hleast, hmost, hvalue⟩ := numeral_padded hpos hlt
  have hread : m * nanosPerSecond / 10 ^ (padded width m).length = n := by
    rw [hmost.antisymm hleast, hsecond, ← Nat.mul_assoc, hnanos,
      Nat.mul_div_cancel _ (Nat.pow_pos (by decide))]
  exact hread ▸ .some ⟨hdigits, Nat.le_trans hpos hleast, Nat.le_refl _, hvalue⟩

/-- The digits that are left out are zeros. -/
theorem fraction_fractionChars (h : n < nanosPerSecond) : Fraction (fractionChars n) n := by
  rw [fractionChars]
  by_cases hzero : n = 0
  · rw [if_pos hzero, hzero]
    exact .none
  · rw [if_neg hzero]
    by_cases hmillis : n % 1000000 = 0
    · rw [if_pos hmillis]
      exact fraction_padded (by decide) (by decide)
        (show n / 1000000 * 1000000 = n by omega) h
    · rw [if_neg hmillis]
      by_cases hmicros : n % 1000 = 0
      · rw [if_pos hmicros]
        exact fraction_padded (by decide) (by decide) (show n / 1000 * 1000 = n by omega) h
      · rw [if_neg hmicros]
        exact fraction_padded (by decide) (Nat.le_refl 9) (Nat.mul_one n) h

theorem fixedDay_dayChars {d : CalendarDay} (hyear : 0 ≤ d.year ∧ d.year ≤ 9999) (h : d.IsValid) :
    FixedDay (dayChars d) d := by
  obtain ⟨year, month, day⟩ := d
  obtain ⟨y, rfl⟩ := Int.eq_ofNat_of_zero_le hyear.1
  have hyear' : (y : Int) ≤ 9999 := hyear.2
  have hmonth : month ≤ 12 := h.2.2.2.1
  have hday : day ≤ (CalendarDay.monthLengths y).getD (month - 1) 0 := h.2.2.2.2.2
  have hshort : day ≤ 31 := Nat.le_trans hday (CalendarDay.getD_monthLengths_le y (month - 1))
  rw [dayChars, yearChars, if_pos hyear, List.append_assoc]
  exact .intro (numeral_padded (by decide) (show y < 10000 by omega))
    (numeral_padded (by decide) (show month < 100 by omega))
    (numeral_padded (by decide) (show day < 100 by omega)) h

theorem clockTime_padded {h m s : Nat} (hour_lt : h < 24) (minute_lt : m < 60) (second_le : s ≤ 60)
    (hnanos : n < nanosPerSecond) :
    ClockTime (padded 2 h ++ ':' :: (padded 2 m ++ ':' :: (padded 2 s ++ fractionChars n)))
      ((h * 60 + m) * 60 + min s 59) (n + if s = 60 then nanosPerSecond else 0) :=
  .intro (numeral_padded (by decide) (show h < 100 by omega))
    (numeral_padded (by decide) (show m < 100 by omega))
    (numeral_padded (by decide) (show s < 100 by omega)) (fraction_fractionChars hnanos) hour_lt
    minute_lt second_le

/-- The time of day of an instant, as it is printed. -/
def clockChars (t : Instant) : List Char :=
  padded 2 (t.secondOfDay / 3600) ++ ':' :: (padded 2 (t.secondOfDay / 60 % 60) ++
    ':' :: (padded 2 (t.secondOfDay % 60 + t.nanosecond / nanosPerSecond) ++
      fractionChars (t.nanosecond % nanosPerSecond)))

/-- A leap second is printed as second 60: what the second before it has too many of nanoseconds is
counted as a second. -/
theorem printed_second (h : t.OnClock) {second : Nat}
    (hsecond : second = t.secondOfDay % 60 + t.nanosecond / nanosPerSecond) :
    second ≤ 60 ∧ min second 59 = t.secondOfDay % 60 ∧
      t.nanosecond % nanosPerSecond + (if second = 60 then nanosPerSecond else 0) =
        t.nanosecond := by
  have hsplit := Nat.mod_add_div t.nanosecond nanosPerSecond
  by_cases hleap : nanosPerSecond ≤ t.nanosecond
  · have hlast : t.secondOfDay % 60 = 59 := by
      have hminute := h.last_of_minute hleap
      rw [secondOfDay, secondsPerDay]
      omega
    have hone : t.nanosecond / nanosPerSecond = 1 :=
      Nat.div_eq_of_lt_le (by rwa [Nat.one_mul]) h.nanosecond_lt
    rw [hone, Nat.mul_one] at hsplit
    rw [hlast, hone] at hsecond
    subst hsecond
    exact ⟨Nat.le_refl _, hlast.symm, hsplit⟩
  · have hzero : t.nanosecond / nanosPerSecond = 0 := Nat.div_eq_of_lt (Nat.not_le.mp hleap)
    rw [hzero, Nat.mul_zero] at hsplit
    rw [hzero, Nat.add_zero] at hsecond
    have hne : second ≠ 60 := by omega
    rw [if_neg hne]
    exact ⟨by omega, by omega, hsplit⟩

theorem clockTime_clockChars (h : t.OnClock) :
    ClockTime t.clockChars t.secondOfDay t.nanosecond := by
  have hday : t.secondOfDay < 86400 := by
    rw [secondOfDay, secondsPerDay]
    omega
  obtain ⟨hle, hmin, hnanoseconds⟩ := printed_second h rfl
  have hclock := clockTime_padded (h := t.secondOfDay / 3600) (m := t.secondOfDay / 60 % 60)
    (by omega) (by omega) hle (Nat.mod_lt t.nanosecond (by decide))
  have hseconds : (t.secondOfDay / 3600 * 60 + t.secondOfDay / 60 % 60) * 60 +
      t.secondOfDay % 60 = t.secondOfDay := by
    omega
  rw [hmin, hseconds, hnanoseconds] at hclock
  exact hclock

/-! ### Printed instants -/

theorem toChars_eq (t : Instant) :
    t.toChars = dayChars t.day ++ 'T' :: (t.clockChars ++ ['+', '0', '0', ':', '0', '0']) := by
  rw [toChars, clockChars]
  simp only [List.append_assoc, List.cons_append]

/-- **An instant of the clock is printed as a timestamp** if its year can be. -/
theorem timestamp_toChars (hyear : t.HasFourDigitYear) (h : t.OnClock) : Timestamp t.toChars t := by
  have hvalid : t.day.IsValid :=
    CalendarDay.isValid_ofNumber (Int.le_trans (by decide) hyear.1)
      (Int.le_trans hyear.2 (by decide))
  have hzero : Numeral 2 2 ['0', '0'] 0 := ⟨rfl, by decide, by decide, rfl⟩
  have htime := Timestamp.intro (c := 'T') (fixedDay_dayChars hyear hvalid) (by decide)
    (clockTime_clockChars h) (.ahead hzero hzero (by decide) (by decide))
  have hsecond : t.day.number * secondsPerDay + t.secondOfDay -
      (((0 : Nat) : Int) * 60 + ((0 : Nat) : Int)) * 60 = t.second := by
    rw [day, CalendarDay.number_ofNumber, secondOfDay, secondsPerDay]
    omega
  rw [hsecond] at htime
  rw [toChars_eq]
  exact htime

/-- A year is printed with a digit at the beginning, or with a sign. -/
theorem exists_yearChars_eq_cons (year : Int) : ∃ c cs, yearChars year = c :: cs ∧
    (c.isDigit = true ↔ 0 ≤ year ∧ year ≤ 9999) ∧ Text.isBlank c = false := by
  rw [yearChars]
  by_cases hfour : 0 ≤ year ∧ year ≤ 9999
  · have hne : padded 4 year.toNat ≠ [] := by simp [padded]
    obtain ⟨c, cs, hchars⟩ := List.exists_cons_of_ne_nil hne
    have hdigit : c.isDigit = true := isDigit_of_mem_padded (hchars ▸ List.mem_cons_self)
    rw [if_pos hfour]
    exact ⟨c, cs, hchars, iff_of_true hdigit hfour, Text.isBlank_of_isDigit hdigit⟩
  · rw [if_neg hfour]
    by_cases hneg : year < 0
    · rw [if_pos hneg]
      exact ⟨_, _, rfl, iff_of_false (by decide) hfour, by decide⟩
    · rw [if_neg hneg]
      exact ⟨_, _, rfl, iff_of_false (by decide) hfour, by decide⟩

theorem exists_toChars_eq_cons (t : Instant) : ∃ c cs, t.toChars = c :: cs ∧
    (c.isDigit = true ↔ t.HasFourDigitYear) ∧ Text.isBlank c = false := by
  obtain ⟨c, cs, hyear, hc⟩ := exists_yearChars_eq_cons t.day.year
  rw [toChars_eq, dayChars, hyear]
  exact ⟨c, _, rfl, hc⟩

/-- No white space is printed at the ends. -/
theorem trimChars_toText (t : Instant) : Text.trimChars t.toText.toList = t.toChars := by
  rw [toText, String.toList_ofList]
  refine Text.trimChars_of_head_of_last (fun c hc => ?_) (fun c hc => ?_)
  · obtain ⟨d, cs, hchars, -, hblank⟩ := exists_toChars_eq_cons t
    rw [hchars] at hc
    exact Option.some.inj hc ▸ hblank
  · have hlast : t.toChars.getLast? = some '0' := by
      rw [toChars, List.getLast?_append]
      rfl
    rw [hlast] at hc
    exact Option.some.inj hc ▸ (by decide : Text.isBlank '0' = false)

theorem Timestamp.exists_cons (h : Timestamp cs t) :
    ∃ c rest, cs = c :: rest ∧ c.isDigit = true := by
  obtain ⟨⟨year, -, -, -⟩, -, -, -⟩ := h
  obtain ⟨c, rest, rfl, hc⟩ := year.exists_cons (by decide)
  exact ⟨c, _, rfl, hc⟩

/-- **A printed instant is read back** if its year has four digits, and else nothing is read: a
timestamp has no sign before the year, and a date no time after the day. -/
theorem ofText?_toText (h : t.OnClock) :
    ofText? t.toText = if t.HasFourDigitYear then some t else none := by
  by_cases hyear : t.HasFourDigitYear
  · rw [if_pos hyear, ofText?_eq_some_iff, trimChars_toText]
    exact .inl (timestamp_toChars hyear h)
  · rw [if_neg hyear]
    refine Option.eq_none_iff_forall_ne_some.mpr fun u hu => ?_
    rw [ofText?_eq_some_iff, trimChars_toText] at hu
    rcases hu with htime | ⟨d, hday, -⟩
    · obtain ⟨c, cs, hchars, hc, -⟩ := exists_toChars_eq_cons t
      obtain ⟨c', cs', hchars', hc'⟩ := htime.exists_cons
      obtain ⟨rfl, -⟩ := List.cons.inj (hchars.symm.trans hchars')
      exact hyear (hc.mp hc')
    · refine colon_not_mem_of_looseDay hday ?_
      rw [toChars_eq]
      simp

end GuardedSearch.Instant
