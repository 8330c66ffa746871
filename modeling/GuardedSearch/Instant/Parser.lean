import GuardedSearch.Instant.Basic
import GuardedSearch.Text.Blank
import GuardedSearch.Text.Numeral

/-!
# Reading instants

A text denotes an instant in one of two forms, white space around it aside.

* A *timestamp* has a date, a time and an offset from UTC, all with fixed numbers of digits:
  `YYYY-MM-DD`, one of `T`, `t` and a space, `hh:mm:ss`, a fraction if any, and `Z`, `z` or a signed
  `hh:mm`. Second 60 stands for a leap second in any minute.
* A *date* is year, month and day with dashes between them. The year has one to four digits, or a
  sign and any number of them; month and day have one or two; white space may precede each. It
  denotes the start of that day in UTC.

A timestamp is tried first.
-/

namespace GuardedSearch.Instant

/-! ### Numbers -/

/-- Exactly `n` digits. -/
def digits? (n : Nat) (cs : List Char) : Option (Nat × List Char) :=
  if (cs.take n).length = n ∧ (cs.take n).all Char.isDigit then
    some (Text.ofDigits (cs.take n), cs.drop n)
  else
    none

/-- One character of a given set. -/
def oneOf? (set : List Char) : List Char → Option (Char × List Char)
  | c :: rest => if c ∈ set then some (c, rest) else none
  | [] => none

/-- The digits that follow, as many as there are up to `most`, but at least one. -/
def digitsUpTo? (most : Nat) (cs : List Char) : Option (Nat × List Char) :=
  let ds := (cs.take most).takeWhile Char.isDigit
  if ds.isEmpty then none else some (Text.ofDigits ds, cs.drop ds.length)

/-- All the digits that follow, at least one. -/
def allDigits? (cs : List Char) : Option (Nat × List Char) :=
  digitsUpTo? cs.length cs

/-! ### Timestamps -/

/-- A fraction of a second in nanoseconds; digits after the ninth are dropped. -/
def fraction? : List Char → Option (Nat × List Char)
  | '.' :: cs =>
    let ds := cs.takeWhile Char.isDigit
    if ds.isEmpty then none
    else
      let kept := ds.take 9
      some (Text.ofDigits kept * Nat.pow 10 (9 - kept.length), cs.drop ds.length)
  | cs => some (0, cs)

/-- The seconds by which local time is ahead of UTC; nothing may follow. -/
def offset? (cs : List Char) : Option Int :=
  match cs with
  | ['Z'] | ['z'] => some 0
  | _ => do
    let (sign, cs) ← oneOf? ['+', '-', '\u2212'] cs
    let (hours, cs) ← digits? 2 cs
    let (_, cs) ← oneOf? [':'] cs
    let (minutes, cs) ← digits? 2 cs
    if cs.isEmpty ∧ minutes < 60 ∧ hours < 24 then
      let seconds : Int := (hours * 60 + minutes) * 60
      some (if sign = '+' then seconds else -seconds)
    else
      none

/-- A date in the form `YYYY-MM-DD`. -/
def fixedDate? (cs : List Char) : Option (CalendarDay × List Char) := do
  let (year, cs) ← digits? 4 cs
  let (_, cs) ← oneOf? ['-'] cs
  let (month, cs) ← digits? 2 cs
  let (_, cs) ← oneOf? ['-'] cs
  let (day, cs) ← digits? 2 cs
  let d : CalendarDay := ⟨year, month, day⟩
  if d.IsValid then some (d, cs) else none

/-- A time in the form `hh:mm:ss` with a fraction if any, as a second of the day and nanoseconds. -/
def fixedTime? (cs : List Char) : Option (Nat × Nat × List Char) := do
  let (hour, cs) ← digits? 2 cs
  let (_, cs) ← oneOf? [':'] cs
  let (minute, cs) ← digits? 2 cs
  let (_, cs) ← oneOf? [':'] cs
  let (second, cs) ← digits? 2 cs
  let (nanos, cs) ← fraction? cs
  if hour < 24 ∧ minute < 60 ∧ second ≤ 60 then
    let leap := second / 60
    some ((hour * 60 + minute) * 60 + (second - leap), nanos + leap * nanosPerSecond, cs)
  else
    none

/-- A timestamp with an offset. -/
def timestamp? (cs : List Char) : Option Instant := do
  let (day, cs) ← fixedDate? cs
  let (_, cs) ← oneOf? ['T', 't', ' '] cs
  let (seconds, nanos, cs) ← fixedTime? cs
  let offset ← offset? cs
  some ⟨day.number * secondsPerDay + seconds - offset, nanos⟩

/-! ### Dates -/

/-- A year: one to four digits, or a sign and at least one digit. -/
def year? (cs : List Char) : Option (Int × List Char) :=
  match cs.dropWhile Text.isBlank with
  | '+' :: cs => (allDigits? cs).map fun (n, cs) => ((n : Int), cs)
  | '-' :: cs => (allDigits? cs).map fun (n, cs) => (-(n : Int), cs)
  | cs => (digitsUpTo? 4 cs).map fun (n, cs) => ((n : Int), cs)

/-- A month or a day: one or two digits. -/
def monthOrDay? (cs : List Char) : Option (Nat × List Char) :=
  digitsUpTo? 2 (cs.dropWhile Text.isBlank)

/-- A date, at whose end the text must end. -/
def date? (cs : List Char) : Option CalendarDay := do
  let (year, cs) ← year? cs
  let (_, cs) ← oneOf? ['-'] cs
  let (month, cs) ← monthOrDay? cs
  let (_, cs) ← oneOf? ['-'] cs
  let (day, cs) ← monthOrDay? cs
  let d : CalendarDay := ⟨year, month, day⟩
  if cs.isEmpty ∧ d.IsValid then some d else none

/-! ### Both forms -/

/-- The instant that characters without surrounding white space denote. -/
def ofChars? (cs : List Char) : Option Instant :=
  (timestamp? cs).or ((date? cs).map ofDay)

/-- The instant that a text denotes, if it denotes one. -/
def ofText? (s : String) : Option Instant :=
  ofChars? (Text.trimChars s.toList)

end GuardedSearch.Instant
