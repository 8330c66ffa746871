import GuardedSearch.Proofs.Instant.Order
import Mathlib.Data.List.DropRight

/-!
# The texts that denote instants

Instants are meant to be written as dates, `YYYY-MM-DD`, or as timestamps. The two are read quite
differently. A timestamp has a fixed number of digits in every field, and what is read as one has
the form of one. A date is read number by number, each as long as its digits go on up to a limit,
and each after white space; so what is read as a date may have fewer digits than it should, or a
year with a sign and any number of digits. The year of `24-01-15` is 24.

The forms are given here as grammars: they say how a text is put together and what it denotes, not
how it is read. The parsers accept these texts and no others. They take as many digits as there are,
and still take a number as it was put down, because what comes after a number is no digit.

## Main definitions

* `Instant.Numeral` — digits that write a number
* `Instant.FixedDay`, `Instant.Timestamp` — the documented forms
* `Instant.LooseDay` — what is accepted as a date

## Main results

* `Instant.timestamp?_eq_some_iff`, `Instant.date?_eq_some_iff` — what the parsers accept
* `Instant.fixedDay_iff_of_looseDay` — which accepted dates have the documented form
* `instant_of_text` — which texts denote instants
-/

namespace GuardedSearch.Instant

open Text (ofDigits)

/-! ### Forms -/

/-- So many digits at least and at most, which write the number. -/
structure Numeral (least most : Nat) (ds : List Char) (n : Nat) : Prop where
  digits : ds.all Char.isDigit = true
  least : least ≤ ds.length
  most : ds.length ≤ most
  value : ofDigits ds = n

/-- A day in the form `YYYY-MM-DD`. -/
inductive FixedDay : List Char → CalendarDay → Prop
  | intro {ys ms ds : List Char} {y m d : Nat} (year : Numeral 4 4 ys y) (month : Numeral 2 2 ms m)
      (day : Numeral 2 2 ds d) (valid : CalendarDay.IsValid ⟨y, m, d⟩) :
      FixedDay (ys ++ '-' :: (ms ++ '-' :: ds)) ⟨y, m, d⟩

/-- A fraction of a second, if any, in whole nanoseconds. -/
inductive Fraction : List Char → Nat → Prop
  | none : Fraction [] 0
  | some {ds : List Char} {n : Nat} (digits : Numeral 1 ds.length ds n) :
      Fraction ('.' :: ds) (n * nanosPerSecond / 10 ^ ds.length)

/-- A time in the form `hh:mm:ss` with a fraction, if any, as a second of the day and nanoseconds.
Second 60 is the second before it with another thousand million nanoseconds. -/
inductive ClockTime : List Char → Nat → Nat → Prop
  | intro {hs ms ss fs : List Char} {h m s nanos : Nat} (hour : Numeral 2 2 hs h)
      (minute : Numeral 2 2 ms m) (second : Numeral 2 2 ss s) (fraction : Fraction fs nanos)
      (hour_lt : h < 24) (minute_lt : m < 60) (second_le : s ≤ 60) :
      ClockTime (hs ++ ':' :: (ms ++ ':' :: (ss ++ fs))) ((h * 60 + m) * 60 + min s 59)
        (nanos + if s = 60 then nanosPerSecond else 0)

/-- An offset from UTC in seconds: `Z`, or `hh:mm` with a sign. There are two minus signs. -/
inductive Offset : List Char → Int → Prop
  | utc {c : Char} (mark : c ∈ ['Z', 'z']) : Offset [c] 0
  | ahead {hs ms : List Char} {h m : Nat} (hour : Numeral 2 2 hs h) (minute : Numeral 2 2 ms m)
      (hour_lt : h < 24) (minute_lt : m < 60) :
      Offset ('+' :: (hs ++ ':' :: ms)) ((h * 60 + m) * 60)
  | behind {c : Char} {hs ms : List Char} {h m : Nat} (sign : c ∈ ['-', '\u2212'])
      (hour : Numeral 2 2 hs h) (minute : Numeral 2 2 ms m) (hour_lt : h < 24)
      (minute_lt : m < 60) : Offset (c :: (hs ++ ':' :: ms)) (-((h * 60 + m) * 60))

/-- A timestamp: a day, a time and an offset from UTC. -/
inductive Timestamp : List Char → Instant → Prop
  | intro {ds ts os : List Char} {c : Char} {d : CalendarDay} {seconds nanos : Nat} {offset : Int}
      (day : FixedDay ds d) (separator : c ∈ ['T', 't', ' ']) (time : ClockTime ts seconds nanos)
      (ahead : Offset os offset) :
      Timestamp (ds ++ c :: (ts ++ os)) ⟨d.number * secondsPerDay + seconds - offset, nanos⟩

/-- A year of an accepted date: one to four digits, or a sign and any number of them. -/
inductive LooseYear : List Char → Int → Prop
  | plain {ds : List Char} {n : Nat} (digits : Numeral 1 4 ds n) : LooseYear ds n
  | plus {ds : List Char} {n : Nat} (digits : Numeral 1 ds.length ds n) : LooseYear ('+' :: ds) n
  | minus {ds : List Char} {n : Nat} (digits : Numeral 1 ds.length ds n) :
      LooseYear ('-' :: ds) (-n)

/-- A day as it is accepted: the numbers may be short, and there may be white space before the month
and before the day. -/
inductive LooseDay : List Char → CalendarDay → Prop
  | intro {ys bs ms bs' ds : List Char} {y : Int} {m d : Nat} (year : LooseYear ys y)
      (blank : bs.all Text.isBlank = true) (month : Numeral 1 2 ms m)
      (blank' : bs'.all Text.isBlank = true) (day : Numeral 1 2 ds d)
      (valid : CalendarDay.IsValid ⟨y, m, d⟩) :
      LooseDay (ys ++ '-' :: (bs ++ (ms ++ '-' :: (bs' ++ ds)))) ⟨y, m, d⟩

variable {cs rest ds : List Char} {n : Nat}

/-! ### Numbers -/

/-- What follows a number does not go on with a digit. -/
def EndsNumber (rest : List Char) : Prop :=
  ∀ c, rest.head? = some c → c.isDigit = false

theorem endsNumber_nil : EndsNumber [] :=
  nofun

theorem endsNumber_cons {c : Char} (h : c.isDigit = false) : EndsNumber (c :: rest) := by
  rintro _ ⟨⟩
  exact h

theorem Numeral.exists_cons {least most : Nat} (h : Numeral least most ds n) (hleast : 1 ≤ least) :
    ∃ c cs, ds = c :: cs ∧ c.isDigit = true := by
  obtain _ | ⟨c, cs⟩ := ds
  · exact absurd (hleast.trans h.least) (by decide)
  · exact ⟨c, cs, rfl, List.all_eq_true.mp h.digits c List.mem_cons_self⟩

/-- Digits end where something else comes. -/
theorem EndsNumber.takeWhile_append (hrest : EndsNumber rest) (h : ds.all Char.isDigit = true) :
    (ds ++ rest).takeWhile Char.isDigit = ds := by
  have hnone : rest.takeWhile Char.isDigit = [] := by
    cases rest with
    | nil => rfl
    | cons c rest => exact List.takeWhile_cons_of_neg (by simp [hrest c rfl])
  rw [List.takeWhile_append_of_pos (List.all_eq_true.mp h), hnone, List.append_nil]

theorem EndsNumber.take (hrest : EndsNumber rest) (k : Nat) : EndsNumber (rest.take k) := by
  intro c hc
  cases k with
  | zero => cases hc
  | succ k =>
    cases rest with
    | nil => cases hc
    | cons e es => exact hrest c hc

theorem digits?_eq_some_iff {k : Nat} :
    digits? k cs = some (n, rest) ↔ ∃ ds, cs = ds ++ rest ∧ Numeral k k ds n := by
  rw [digits?]
  constructor
  · intro h
    split at h
    case isTrue hdigits =>
      obtain ⟨rfl, rfl⟩ := Prod.mk.inj (Option.some.inj h)
      exact ⟨cs.take k, (List.take_append_drop k cs).symm, hdigits.2, hdigits.1.ge, hdigits.1.le,
        rfl⟩
    case isFalse => cases h
  · rintro ⟨ds, rfl, h⟩
    have hlength : ds.length = k := h.most.antisymm h.least
    rw [List.take_left' hlength, List.drop_left' hlength, if_pos ⟨hlength, h.digits⟩, h.value]

theorem oneOf?_eq_some_iff {set : List Char} {c : Char} :
    oneOf? set cs = some (c, rest) ↔ cs = c :: rest ∧ c ∈ set := by
  refine ⟨oneOf?_eq_some, ?_⟩
  rintro ⟨rfl, hmem⟩
  exact if_pos hmem

theorem numeral_of_digitsUpTo? {most : Nat} (h : digitsUpTo? most cs = some (n, rest)) :
    ∃ ds, cs = ds ++ rest ∧ Numeral 1 most ds n := by
  rw [digitsUpTo?] at h
  split at h
  case isTrue => cases h
  case isFalse hne =>
    obtain ⟨rfl, rfl⟩ := Prod.mk.inj (Option.some.inj h)
    have hprefix := (List.takeWhile_prefix Char.isDigit).trans (List.take_prefix most cs)
    refine ⟨(cs.take most).takeWhile Char.isDigit, ?_, ?_, ?_, ?_, rfl⟩
    · exact (List.prefix_iff_eq_append.mp hprefix).symm
    · exact List.all_eq_true.mpr fun _ hc => List.mem_takeWhile_imp hc
    · exact List.length_pos_iff.mpr (by simpa using hne)
    · exact (List.takeWhile_prefix _).length_le.trans (List.length_take_le most cs)

theorem digitsUpTo?_append {most : Nat} (h : Numeral 1 most ds n) (hrest : EndsNumber rest) :
    digitsUpTo? most (ds ++ rest) = some (n, rest) := by
  have hne : ds ≠ [] := List.length_pos_iff.mp h.least
  have hread : ((ds ++ rest).take most).takeWhile Char.isDigit = ds := by
    rw [List.take_append, List.take_of_length_le h.most]
    exact (hrest.take (most - ds.length)).takeWhile_append h.digits
  rw [digitsUpTo?, hread, List.drop_left, h.value]
  exact if_neg (by simpa using hne)

theorem numeral_of_allDigits? (h : allDigits? cs = some (n, rest)) :
    ∃ ds, cs = ds ++ rest ∧ Numeral 1 ds.length ds n := by
  obtain ⟨ds, hcs, hnumeral⟩ := numeral_of_digitsUpTo? h
  exact ⟨ds, hcs, hnumeral.digits, hnumeral.least, Nat.le_refl _, hnumeral.value⟩

theorem allDigits?_append (h : Numeral 1 ds.length ds n) (hrest : EndsNumber rest) :
    allDigits? (ds ++ rest) = some (n, rest) := by
  have hmost : ds.length ≤ (ds ++ rest).length := by simp
  exact digitsUpTo?_append ⟨h.digits, h.least, hmost, h.value⟩ hrest

/-! ### Timestamps -/

theorem fixedDate?_eq_some_iff {d : CalendarDay} :
    fixedDate? cs = some (d, rest) ↔ ∃ ds, cs = ds ++ rest ∧ FixedDay ds d := by
  simp only [fixedDate?, Option.bind_eq_bind, Option.bind_eq_some_iff, Prod.exists,
    digits?_eq_some_iff, oneOf?_eq_some_iff, List.mem_singleton]
  constructor
  · rintro ⟨y, _, ⟨ys, rfl, hy⟩, _, _, ⟨rfl, rfl⟩, m, _, ⟨ms, rfl, hm⟩, _, _, ⟨rfl, rfl⟩, k, _,
      ⟨ds, rfl, hd⟩, h⟩
    split at h
    case isTrue hvalid =>
      obtain ⟨rfl, rfl⟩ := Prod.mk.inj (Option.some.inj h)
      exact ⟨ys ++ '-' :: (ms ++ '-' :: ds), by simp, .intro hy hm hd hvalid⟩
    case isFalse => cases h
  · rintro ⟨_, rfl, @⟨ys, ms, ds, y, m, k, hy, hm, hd, hvalid⟩⟩
    exact ⟨y, '-' :: (ms ++ '-' :: (ds ++ rest)), ⟨ys, by simp, hy⟩, _, _, ⟨rfl, rfl⟩, m, _,
      ⟨ms, rfl, hm⟩, _, _, ⟨rfl, rfl⟩, k, rest, ⟨ds, rfl, hd⟩, if_pos hvalid⟩

/-- Digits after the ninth are less than a nanosecond together. -/
theorem ofDigits_take_nine (h : ds.all Char.isDigit = true) :
    ofDigits (ds.take 9) * 10 ^ (9 - (ds.take 9).length) =
      ofDigits ds * nanosPerSecond / 10 ^ ds.length := by
  have hsecond : nanosPerSecond = 10 ^ 9 := rfl
  rcases Nat.le_total ds.length 9 with hle | hle
  · rw [List.take_of_length_le hle, hsecond, ← Nat.pow_sub_mul_pow 10 hle, ← Nat.mul_assoc,
      Nat.mul_div_cancel _ (Nat.pow_pos (by decide))]
  · have hsplit : ofDigits ds = 10 ^ (ds.drop 9).length * ofDigits (ds.take 9) +
        ofDigits (ds.drop 9) := by
      conv_lhs => rw [← List.take_append_drop 9 ds]
      exact (Nat.ofDigitChars_append 0).trans Nat.ofDigitChars_eq_ofDigitChars_zero
    have hlength : ds.length = (ds.drop 9).length + 9 := by
      rw [List.length_drop, Nat.sub_add_cancel hle]
    have hrest : ofDigits (ds.drop 9) < 10 ^ (ds.drop 9).length :=
      Text.ofDigits_lt fun c hc => List.all_eq_true.mp h c (List.mem_of_mem_drop hc)
    rw [List.length_take_of_le hle, Nat.sub_self, Nat.pow_zero, Nat.mul_one, hlength, Nat.pow_add,
      hsecond, Nat.mul_div_mul_right _ _ (Nat.pow_pos (by decide)), hsplit,
      Nat.mul_add_div (Nat.pow_pos (by decide)), Nat.div_eq_of_lt hrest, Nat.add_zero]

theorem fraction_of_fraction? (h : fraction? cs = some (n, rest)) :
    ∃ fs, cs = fs ++ rest ∧ Fraction fs n := by
  unfold fraction? at h
  split at h
  case h_1 es =>
    dsimp only at h
    split at h
    case isTrue => cases h
    case isFalse hne =>
      obtain ⟨rfl, rfl⟩ := Prod.mk.inj (Option.some.inj h)
      have hdigits : (es.takeWhile Char.isDigit).all Char.isDigit = true :=
        List.all_eq_true.mpr fun _ hc => List.mem_takeWhile_imp hc
      have hleast : 1 ≤ (es.takeWhile Char.isDigit).length :=
        List.length_pos_iff.mpr (by simpa using hne)
      refine ⟨'.' :: es.takeWhile Char.isDigit, ?_, ?_⟩
      · rw [List.cons_append, List.prefix_iff_eq_append.mp (List.takeWhile_prefix _)]
      · have hvalue := ofDigits_take_nine hdigits
        exact hvalue ▸ .some ⟨hdigits, hleast, Nat.le_refl _, rfl⟩
  case h_2 =>
    obtain ⟨rfl, rfl⟩ := Prod.mk.inj (Option.some.inj h)
    exact ⟨[], rfl, .none⟩

theorem fraction?_append {fs : List Char} (h : Fraction fs n) (hrest : EndsNumber rest)
    (hpoint : rest.head? ≠ some '.') : fraction? (fs ++ rest) = some (n, rest) := by
  cases h with
  | none => exact fraction?.eq_2 rest fun es hes => hpoint (hes ▸ rfl)
  | @some ds n digits =>
    have hne : ds ≠ [] := List.length_pos_iff.mp digits.least
    have hvalue := ofDigits_take_nine digits.digits
    rw [List.cons_append, fraction?, hrest.takeWhile_append digits.digits, List.drop_left,
      ← digits.value, ← hvalue]
    exact if_neg (by simpa using hne)

/-- Second 60 counts as second 59, and what is missing goes into the nanoseconds. -/
theorem leap_eq {s : Nat} (h : s ≤ 60) :
    s - s / 60 = min s 59 ∧
      s / 60 * nanosPerSecond = if s = 60 then nanosPerSecond else 0 := by
  rcases h.lt_or_eq with hlt | rfl
  · rw [Nat.div_eq_of_lt hlt, if_neg hlt.ne, Nat.zero_mul]
    exact ⟨by omega, rfl⟩
  · decide

theorem clockTime_of_fixedTime? {seconds nanos : Nat}
    (h : fixedTime? cs = some (seconds, nanos, rest)) :
    ∃ ts, cs = ts ++ rest ∧ ClockTime ts seconds nanos := by
  simp only [fixedTime?, Option.bind_eq_bind, Option.bind_eq_some_iff, Prod.exists,
    digits?_eq_some_iff, oneOf?_eq_some_iff, List.mem_singleton] at h
  obtain ⟨h, _, ⟨hs, rfl, hh⟩, _, _, ⟨rfl, rfl⟩, m, _, ⟨ms, rfl, hm⟩, _, _, ⟨rfl, rfl⟩, s, cs₅,
    ⟨ss, rfl, hsec⟩, nanos, _, hfraction, hvalue⟩ := h
  obtain ⟨fs, rfl, hnanos⟩ := fraction_of_fraction? hfraction
  split at hvalue
  case isTrue hlt =>
    simp only [Option.some.injEq, Prod.mk.injEq] at hvalue
    obtain ⟨rfl, rfl, rfl⟩ := hvalue
    refine ⟨hs ++ ':' :: (ms ++ ':' :: (ss ++ fs)), by simp, ?_⟩
    obtain ⟨hsecond, hleap⟩ := leap_eq hlt.2.2
    rw [hsecond, hleap]
    exact .intro hh hm hsec hnanos hlt.1 hlt.2.1 hlt.2.2
  case isFalse => cases hvalue

theorem fixedTime?_append {ts : List Char} {seconds nanos : Nat} (h : ClockTime ts seconds nanos)
    (hrest : EndsNumber rest) (hpoint : rest.head? ≠ some '.') :
    fixedTime? (ts ++ rest) = some (seconds, nanos, rest) := by
  simp only [fixedTime?, Option.bind_eq_bind, Option.bind_eq_some_iff, Prod.exists,
    digits?_eq_some_iff, oneOf?_eq_some_iff, List.mem_singleton]
  obtain @⟨hs, ms, ss, fs, h, m, s, nanos, hh, hm, hsec, hfraction, hour_lt, minute_lt,
    second_le⟩ := h
  obtain ⟨hsecond, hleap⟩ := leap_eq second_le
  refine ⟨h, ':' :: (ms ++ ':' :: (ss ++ (fs ++ rest))), ⟨hs, by simp, hh⟩, _, _, ⟨rfl, rfl⟩, m, _,
    ⟨ms, rfl, hm⟩, _, _, ⟨rfl, rfl⟩, s, _, ⟨ss, rfl, hsec⟩, nanos, rest,
    fraction?_append hfraction hrest hpoint, ?_⟩
  rw [if_pos ⟨hour_lt, minute_lt, second_le⟩, hsecond, hleap]

theorem offset?_of_sign {c : Char} {hs ms : List Char} {h m : Nat}
    (sign : c ∈ ['+', '-', '\u2212']) (hour : Numeral 2 2 hs h) (minute : Numeral 2 2 ms m)
    (hour_lt : h < 24) (minute_lt : m < 60) :
    offset? (c :: (hs ++ ':' :: ms)) =
      some (if c = '+' then ((h * 60 + m) * 60 : Int) else -((h * 60 + m) * 60)) := by
  have hread : offset? (c :: (hs ++ ':' :: ms)) = _ := offset?.eq_3 _ (by simp) (by simp)
  rw [hread]
  simp only [Option.bind_eq_bind, Option.bind_eq_some_iff, Prod.exists, digits?_eq_some_iff,
    oneOf?_eq_some_iff, List.mem_singleton]
  refine ⟨c, _, ⟨rfl, sign⟩, h, _, ⟨hs, rfl, hour⟩, _, _, ⟨rfl, rfl⟩, m, [], ⟨ms, by simp, minute⟩,
    ?_⟩
  rw [if_pos ⟨rfl, minute_lt, hour_lt⟩]

theorem offset?_eq_some_iff {offset : Int} : offset? cs = some offset ↔ Offset cs offset := by
  constructor
  · intro h
    unfold offset? at h
    split at h
    case h_1 =>
      obtain rfl := Option.some.inj h
      exact .utc (by decide)
    case h_2 =>
      obtain rfl := Option.some.inj h
      exact .utc (by decide)
    case h_3 =>
      simp only [Option.bind_eq_bind, Option.bind_eq_some_iff, Prod.exists,
        digits?_eq_some_iff, oneOf?_eq_some_iff, List.mem_singleton] at h
      obtain ⟨c, _, ⟨rfl, hsign⟩, h, _, ⟨hs, rfl, hh⟩, _, _, ⟨rfl, rfl⟩, m, _, ⟨ms, rfl, hm⟩,
        hvalue⟩ := h
      split at hvalue
      case isTrue hlt =>
        obtain ⟨hend, minute_lt, hour_lt⟩ := hlt
        rw [List.isEmpty_iff] at hend
        subst hend
        rw [List.append_nil]
        rcases List.mem_cons.mp hsign with rfl | hminus
        · obtain rfl := Option.some.inj hvalue
          exact .ahead hh hm hour_lt minute_lt
        · rw [if_neg (by rintro rfl; exact absurd hminus (by decide))] at hvalue
          obtain rfl := Option.some.inj hvalue
          exact .behind hminus hh hm hour_lt minute_lt
      case isFalse => cases hvalue
  · intro h
    cases h with
    | utc mark =>
      rcases List.mem_pair.mp mark with rfl | rfl
      · rfl
      · rfl
    | @ahead hs ms h m hour minute hour_lt minute_lt =>
      rw [offset?_of_sign (by decide) hour minute hour_lt minute_lt]
      rfl
    | @behind c hs ms h m sign hour minute hour_lt minute_lt =>
      rw [offset?_of_sign (List.mem_cons_of_mem _ sign) hour minute hour_lt minute_lt, if_neg]
      rintro rfl
      exact absurd sign (by decide)

/-- A time ends where an offset begins. -/
theorem Offset.ends {offset : Int} (h : Offset cs offset) :
    EndsNumber cs ∧ cs.head? ≠ some '.' := by
  have hmarks : ∀ c ∈ ['Z', 'z', '+', '-', '\u2212'], c.isDigit = false ∧ c ≠ '.' := by
    simp only [List.forall_mem_cons]
    exact ⟨by decide, by decide, by decide, by decide, by decide, nofun⟩
  have hhead : ∃ c ∈ ['Z', 'z', '+', '-', '\u2212'], cs.head? = some c := by
    cases h with
    | @utc c mark => exact ⟨c, List.mem_append_left ['+', '-', '\u2212'] mark, rfl⟩
    | ahead => exact ⟨'+', by decide, rfl⟩
    | @behind c _ _ _ _ sign => exact ⟨c, List.mem_append_right ['Z', 'z', '+'] sign, rfl⟩
  obtain ⟨c, hc, hcs⟩ := hhead
  obtain ⟨hdigit, hpoint⟩ := hmarks c hc
  rw [EndsNumber, hcs]
  exact ⟨fun _ h => Option.some.inj h ▸ hdigit, fun h => hpoint (Option.some.inj h)⟩

theorem timestamp?_eq_some_iff {t : Instant} : timestamp? cs = some t ↔ Timestamp cs t := by
  simp only [timestamp?, Option.bind_eq_bind, Option.bind_eq_some_iff, Prod.exists,
    fixedDate?_eq_some_iff, oneOf?_eq_some_iff, offset?_eq_some_iff, Option.some.injEq]
  constructor
  · rintro ⟨d, _, ⟨ds, rfl, hday⟩, c, _, ⟨rfl, hseparator⟩, seconds, nanos, _, htime, offset,
      hoffset, rfl⟩
    obtain ⟨ts, rfl, hclock⟩ := clockTime_of_fixedTime? htime
    exact .intro hday hseparator hclock hoffset
  · rintro @⟨ds, ts, os, c, d, seconds, nanos, offset, hday, hseparator, hclock, hoffset⟩
    -- the fraction is as long as its digits go on, which is up to the offset
    obtain ⟨hrest, hpoint⟩ := hoffset.ends
    exact ⟨d, c :: (ts ++ os), ⟨ds, rfl, hday⟩, c, ts ++ os, ⟨rfl, hseparator⟩, seconds, nanos, os,
      fixedTime?_append hclock hrest hpoint, offset, hoffset, rfl⟩

/-! ### Dates -/

/-- A year is a number with or without a change of sign. -/
theorem map_year_eq_some_iff {o : Option (Nat × List Char)} {f : Nat → Int} {y : Int} :
    (o.map fun (n, cs) => (f n, cs)) = some (y, rest) ↔ ∃ n, o = some (n, rest) ∧ f n = y := by
  rw [Option.map_eq_some_iff]
  simp only [Prod.exists, Prod.mk.injEq]
  constructor
  · rintro ⟨n, _, ho, hy, rfl⟩
    exact ⟨n, ho, hy⟩
  · rintro ⟨n, ho, hy⟩
    exact ⟨n, rest, ho, hy, rfl⟩

theorem looseYear_of_year? {y : Int} (h : year? cs = some (y, rest)) :
    ∃ ys, cs.dropWhile Text.isBlank = ys ++ rest ∧ LooseYear ys y := by
  rw [year?] at h
  split at h
  case h_1 es heq =>
    obtain ⟨n, hread, rfl⟩ := map_year_eq_some_iff.mp h
    obtain ⟨ds, rfl, hdigits⟩ := numeral_of_allDigits? hread
    exact ⟨'+' :: ds, heq, .plus hdigits⟩
  case h_2 es heq =>
    obtain ⟨n, hread, rfl⟩ := (map_year_eq_some_iff (f := fun n => -(n : Int))).mp h
    obtain ⟨ds, rfl, hdigits⟩ := numeral_of_allDigits? hread
    exact ⟨'-' :: ds, heq, .minus hdigits⟩
  case h_3 =>
    obtain ⟨n, hread, rfl⟩ := map_year_eq_some_iff.mp h
    obtain ⟨ds, hes, hdigits⟩ := numeral_of_digitsUpTo? hread
    exact ⟨ds, hes, .plain hdigits⟩

theorem year?_append {ys : List Char} {y : Int} (h : LooseYear ys y) (hrest : EndsNumber rest) :
    year? (ys ++ rest) = some (y, rest) := by
  cases h with
  | @plain ds n digits =>
    -- a digit is neither white space nor a sign
    obtain ⟨c, es, rfl, hc⟩ := digits.exists_cons (Nat.le_refl 1)
    have hblank : ((c :: es) ++ rest).dropWhile Text.isBlank = (c :: es) ++ rest :=
      List.dropWhile_cons_of_neg (by simp [Text.isBlank_of_isDigit hc])
    rw [year?, hblank]
    split
    case h_1 heq =>
      obtain ⟨rfl, -⟩ := List.cons.inj heq
      cases hc
    case h_2 heq =>
      obtain ⟨rfl, -⟩ := List.cons.inj heq
      cases hc
    case h_3 => exact map_year_eq_some_iff.mpr ⟨n, digitsUpTo?_append digits hrest, rfl⟩
  | @plus ds n digits => exact map_year_eq_some_iff.mpr ⟨n, allDigits?_append digits hrest, rfl⟩
  | @minus ds n digits =>
    exact (map_year_eq_some_iff (f := fun n => -(n : Int))).mpr
      ⟨n, allDigits?_append digits hrest, rfl⟩

theorem numeral_of_monthOrDay? (h : monthOrDay? cs = some (n, rest)) :
    ∃ bs ds, cs = bs ++ (ds ++ rest) ∧ bs.all Text.isBlank = true ∧ Numeral 1 2 ds n := by
  obtain ⟨ds, hds, hdigits⟩ := numeral_of_digitsUpTo? h
  refine ⟨cs.takeWhile Text.isBlank, ds, ?_, ?_, hdigits⟩
  · rw [← hds, List.takeWhile_append_dropWhile]
  · exact List.all_eq_true.mpr fun _ hc => List.mem_takeWhile_imp hc

theorem monthOrDay?_append {bs : List Char} (hblank : bs.all Text.isBlank = true)
    (h : Numeral 1 2 ds n) (hrest : EndsNumber rest) :
    monthOrDay? (bs ++ (ds ++ rest)) = some (n, rest) := by
  obtain ⟨c, es, rfl, hc⟩ := h.exists_cons (Nat.le_refl 1)
  have hdrop : (bs ++ ((c :: es) ++ rest)).dropWhile Text.isBlank = (c :: es) ++ rest := by
    rw [List.dropWhile_append_of_pos (List.all_eq_true.mp hblank)]
    exact List.dropWhile_cons_of_neg (by simp [Text.isBlank_of_isDigit hc])
  rw [monthOrDay?, hdrop]
  exact digitsUpTo?_append h hrest

theorem date?_eq_some_iff {d : CalendarDay} (h : cs.dropWhile Text.isBlank = cs) :
    date? cs = some d ↔ LooseDay cs d := by
  simp only [date?, Option.bind_eq_bind, Option.bind_eq_some_iff, Prod.exists, oneOf?_eq_some_iff,
    List.mem_singleton]
  constructor
  · rintro ⟨y, _, hyear, _, _, ⟨rfl, rfl⟩, m, _, hmonth, _, _, ⟨rfl, rfl⟩, k, _, hday, hvalue⟩
    obtain ⟨ys, hcs, hy⟩ := looseYear_of_year? hyear
    obtain ⟨bs, ms, rfl, hblank, hm⟩ := numeral_of_monthOrDay? hmonth
    obtain ⟨bs', ds, rfl, hblank', hd⟩ := numeral_of_monthOrDay? hday
    split at hvalue
    case isTrue hend =>
      obtain rfl := Option.some.inj hvalue
      rw [← h, hcs, List.isEmpty_iff.mp hend.1, List.append_nil]
      exact .intro hy hblank hm hblank' hd hend.2
    case isFalse => cases hvalue
  · rintro @⟨ys, bs, ms, bs', ds, y, m, k, hy, hblank, hm, hblank', hd, hvalid⟩
    have hdash : ∀ es, EndsNumber ('-' :: es) := fun es => endsNumber_cons rfl
    have hday : monthOrDay? (bs' ++ ds) = some (k, []) := by
      rw [← List.append_nil ds]
      exact monthOrDay?_append hblank' hd endsNumber_nil
    exact ⟨y, _, year?_append hy (hdash _), _, _, ⟨rfl, rfl⟩, m, _,
      monthOrDay?_append hblank hm (hdash _), _, _, ⟨rfl, rfl⟩, k, [], hday, if_pos ⟨rfl, hvalid⟩⟩

/-! ### Both forms -/

theorem Numeral.mono {least least' most most' : Nat} (h : Numeral least most ds n)
    (hleast : least' ≤ least) (hmost : most ≤ most') : Numeral least' most' ds n where
  digits := h.digits
  least := hleast.trans h.least
  most := h.most.trans hmost
  value := h.value

theorem Numeral.not_mem {least most : Nat} (h : Numeral least most ds n) {c : Char}
    (hc : c.isDigit = false) : c ∉ ds :=
  fun hmem => Bool.false_ne_true (hc.symm.trans (List.all_eq_true.mp h.digits c hmem))

theorem Numeral.isBlank_eq_false {least most : Nat} (h : Numeral least most ds n) {c : Char}
    (hc : c ∈ ds) : Text.isBlank c = false :=
  Text.isBlank_of_isDigit (List.all_eq_true.mp h.digits c hc)

theorem LooseYear.colon_not_mem {y : Int} (h : LooseYear cs y) : ':' ∉ cs := by
  cases h with
  | plain digits => exact digits.not_mem rfl
  | plus digits => exact List.not_mem_cons_of_ne_of_not_mem (by decide) (digits.not_mem rfl)
  | minus digits => exact List.not_mem_cons_of_ne_of_not_mem (by decide) (digits.not_mem rfl)

theorem colon_mem_of_timestamp {t : Instant} (h : Timestamp cs t) : ':' ∈ cs := by
  obtain ⟨-, -, ⟨⟩, -⟩ := h
  simp

theorem colon_not_mem_of_looseDay {d : CalendarDay} (h : LooseDay cs d) : ':' ∉ cs := by
  obtain ⟨year, blank, month, blank', day, -⟩ := h
  have hblank : ∀ bs : List Char, bs.all Text.isBlank = true → ':' ∉ bs := fun bs hall hmem =>
    absurd (List.all_eq_true.mp hall _ hmem) (by decide)
  simp [year.colon_not_mem, hblank _ blank, month.not_mem (c := ':') rfl, hblank _ blank',
    day.not_mem (c := ':') rfl]

theorem looseDay_of_fixedDay {d : CalendarDay} (h : FixedDay cs d) : LooseDay cs d := by
  obtain @⟨ys, ms, ds, y, m, k, year, month, day, valid⟩ := h
  have hday : LooseDay (ys ++ '-' :: ([] ++ (ms ++ '-' :: ([] ++ ds)))) ⟨y, m, k⟩ :=
    .intro (.plain (year.mono (by decide) (Nat.le_refl 4))) rfl
      (month.mono (by decide) (Nat.le_refl 2)) rfl (day.mono (by decide) (Nat.le_refl 2)) valid
  exact hday

theorem fixedDay_iff_of_looseDay {d : CalendarDay} (h : LooseDay cs d) :
    FixedDay cs d ↔ cs.length = 10 ∧ cs.head?.any Char.isDigit = true ∧
      ∀ c ∈ cs, Text.isBlank c = false := by
  constructor
  · rintro ⟨year, month, day, -⟩
    have hlengths := And.intro year.most (And.intro month.most day.most)
    have hlengths' := And.intro year.least (And.intro month.least day.least)
    refine ⟨?_, ?_, fun c hc => ?_⟩
    · simp only [List.length_append, List.length_cons]
      omega
    · obtain ⟨c, es, rfl, hc⟩ := year.exists_cons (by decide)
      exact hc
    · simp only [List.mem_append, List.mem_cons] at hc
      rcases hc with hc | rfl | hc | rfl | hc
      · exact year.isBlank_eq_false hc
      · rfl
      · exact month.isBlank_eq_false hc
      · rfl
      · exact day.isBlank_eq_false hc
  · rintro ⟨hlength, hhead, hnone⟩
    obtain @⟨ys, bs, ms, bs', ds, y, m, k, year, blank, month, blank', day, valid⟩ := h
    have hnil : ∀ es ⊆ ys ++ '-' :: (bs ++ (ms ++ '-' :: (bs' ++ ds))),
        es.all Text.isBlank = true → es = [] := by
      refine fun es hsub hall => List.eq_nil_iff_forall_not_mem.mpr fun c hc => ?_
      exact Bool.false_ne_true ((hnone c (hsub hc)).symm.trans (List.all_eq_true.mp hall c hc))
    obtain rfl := hnil bs (by intro c hc; simp [hc]) blank
    obtain rfl := hnil bs' (by intro c hc; simp [hc]) blank'
    cases year with
    | plain digits =>
      -- no number can be short if all of them together are as long as they can be
      have hlengths := And.intro digits.most (And.intro month.most day.most)
      simp only [List.nil_append, List.length_append, List.length_cons] at hlength ⊢
      exact .intro ⟨digits.digits, by omega, digits.most, digits.value⟩
        ⟨month.digits, by omega, month.most, month.value⟩
        ⟨day.digits, by omega, day.most, day.value⟩ valid
    | plus => cases hhead
    | minus => cases hhead

/-- No white space comes before the first character of a trimmed text. -/
theorem dropWhile_trimChars (cs : List Char) :
    (Text.trimChars cs).dropWhile Text.isBlank = Text.trimChars cs := by
  have hprefix : Text.trimChars cs <+: cs.dropWhile Text.isBlank := List.rdropWhile_prefix _ _
  cases htrim : Text.trimChars cs with
  | nil => rfl
  | cons c es =>
    obtain ⟨rest, hrest⟩ := hprefix
    have hc := List.head?_dropWhile_not Text.isBlank cs
    rw [← hrest, htrim] at hc
    exact List.dropWhile_cons_of_neg (by simpa using hc)

theorem ofText?_eq_some_iff {s : String} {t : Instant} :
    ofText? s = some t ↔ Timestamp (Text.trimChars s.toList) t ∨
      ∃ d, LooseDay (Text.trimChars s.toList) d ∧ t = ofDay d := by
  rw [ofText?, ofChars?, Option.or_eq_some_iff, timestamp?_eq_some_iff, Option.map_eq_some_iff]
  simp only [date?_eq_some_iff (dropWhile_trimChars s.toList)]
  -- a timestamp is tried first, but has a colon in it, so that it cannot be read as a date
  refine or_congr_right ⟨?_, ?_⟩
  · rintro ⟨-, d, hd, rfl⟩
    exact ⟨d, hd, rfl⟩
  · rintro ⟨d, hd, rfl⟩
    refine ⟨Option.eq_none_iff_forall_ne_some.mpr fun t ht => ?_, d, hd, rfl⟩
    exact colon_not_mem_of_looseDay hd (colon_mem_of_timestamp (timestamp?_eq_some_iff.mp ht))

/-- **The texts that denote instants**, white space around them aside, are the timestamps, which
denote what they say, and the dates of a looser form, which denote the midnight in UTC at which the
day starts. Every date `YYYY-MM-DD` is among these; the others are those that are longer or shorter,
have a sign before the year or white space before another number. -/
theorem instant_of_text (s : String) :
    (∀ t, ofText? s = some t ↔ Timestamp (Text.trimChars s.toList) t ∨
      ∃ d, LooseDay (Text.trimChars s.toList) d ∧ t = ofDay d) ∧
    (∀ d, FixedDay (Text.trimChars s.toList) d → ofText? s = some (ofDay d)) ∧
    ∀ cs d, LooseDay cs d →
      (FixedDay cs d ↔ cs.length = 10 ∧ cs.head?.any Char.isDigit = true ∧
        ∀ c ∈ cs, Text.isBlank c = false) := by
  refine ⟨fun t => ofText?_eq_some_iff, fun d hd => ?_, fun cs d => fixedDay_iff_of_looseDay⟩
  exact ofText?_eq_some_iff.mpr (.inr ⟨d, looseDay_of_fixedDay hd, rfl⟩)

/-- A leap day between white space. -/
theorem instant_of_text_leap_day :
    FixedDay (Text.trimChars " 2024-02-29\n".toList) ⟨2024, 2, 29⟩ ∧
      ofText? " 2024-02-29\n" = some (ofDay ⟨2024, 2, 29⟩) := by
  have htrim : Text.trimChars " 2024-02-29\n".toList =
      ['2', '0', '2', '4'] ++ '-' :: (['0', '2'] ++ '-' :: ['2', '9']) := by
    decide +kernel
  have hday : FixedDay (Text.trimChars " 2024-02-29\n".toList) ⟨2024, 2, 29⟩ := by
    rw [htrim]
    exact .intro ⟨by decide, by decide, by decide, by decide⟩
      ⟨by decide, by decide, by decide, by decide⟩ ⟨by decide, by decide, by decide, by decide⟩
      (by decide)
  obtain ⟨-, hfixed, -⟩ := instant_of_text " 2024-02-29\n"
  exact ⟨hday, hfixed _ hday⟩

/-- **A year of two digits** is taken as it stands, though no date or timestamp is written so. -/
theorem ofText?_of_two_digit_year :
    ofText? "24-1-15" = some (ofDay ⟨24, 1, 15⟩) ∧
      (∀ d, ¬ FixedDay (Text.trimChars "24-1-15".toList) d) ∧
      ∀ t, ¬ Timestamp (Text.trimChars "24-1-15".toList) t := by
  have hchars : Text.trimChars "24-1-15".toList = "24-1-15".toList := by decide
  have hread : ofText? "24-1-15" = some (ofDay ⟨24, 1, 15⟩) := by decide +kernel
  refine ⟨hread, fun d hd => ?_, fun t ht => ?_⟩
  · have hlength := ((fixedDay_iff_of_looseDay (looseDay_of_fixedDay hd)).mp hd).1
    rw [hchars] at hlength
    exact absurd hlength (by decide)
  · have hcolon := colon_mem_of_timestamp ht
    rw [hchars] at hcolon
    exact absurd hcolon (by decide)

end GuardedSearch.Instant
