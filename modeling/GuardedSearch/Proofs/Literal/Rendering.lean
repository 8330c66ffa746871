import GuardedSearch.Proofs.Document.Stored
import GuardedSearch.Proofs.Instant.Printing
import GuardedSearch.Proofs.Literal.Coercion
import GuardedSearch.Proofs.Literal.Whole

/-!
# Literals written as texts

A literal that is coerced to a text is written down, and the text may be coerced to the type that
the literal had. Numbers and truth values come back as they were. So do dates, unless their years
have to be written with a sign: milliseconds reach far beyond the years that a timestamp has digits
for, and an offset can move the first and the last days of these years over their ends. Such a date
is still written, as a text and in JSON, but what is written is no date.

The literals are those that can occur, which have been read or come from coercion. That matters for
whole numbers, which must not be too large to be read again, and for dates, which must not have
seconds of any length.

## Main definitions

* `Literal.Obtained` — the literals that can occur
* `Literal.IsReadable` — the literals that are written in a form that can be read

## Main results

* `Literal.coerce?_plain` — what a written literal is read as
* `Literal.written_read_back` — which literals come back
-/

namespace GuardedSearch.Literal

/-- The literals that can occur: what is read from JSON, and what literals are coerced to. -/
inductive Obtained : Literal → Prop
  | read {v : Json} {l : Literal} (h : ofJson? v = some l) : Obtained l
  | coerced {type : DataType} {field : String} {l w : Literal} (hl : Obtained l)
      (h : coerce type field l = .ok w) : Obtained w

/-- A whole number has 64 bits, and an instant is one of the clock. -/
def IsProper : Literal → Prop
  | int n => Text.fitsInt64 n = true
  | date t => t.OnClock
  | double _ | bool _ | string _ => True

/-- The literal is not a date whose year must be written with a sign. -/
def IsReadable : Literal → Prop
  | date t => t.HasFourDigitYear
  | int _ | double _ | bool _ | string _ => True

variable {type : DataType} {l w : Literal}

theorem isReadable_iff : l.IsReadable ↔ ∀ t, l = date t → t.HasFourDigitYear := by
  cases l with
  | int | double | bool | string => exact iff_of_true trivial nofun
  | date t => simp [IsReadable]

/-! ### What literals are -/

theorem fits_of_doubleInt? {x : Double} {n : Int} (h : doubleInt? x = some n) :
    Text.fitsInt64 n = true := by
  obtain ⟨f, -, ⟨-, hfits⟩ | ⟨-, rfl⟩⟩ := doubleInt?_eq_some_iff.mp h
  · exact hfits
  · decide

theorem fits_of_textInt? {s : String} {n : Int} (h : textInt? s = some n) :
    Text.fitsInt64 n = true := by
  rcases textInt?_eq_some_iff.mp h with h | ⟨-, x, -, h⟩
  · exact (int64?_eq_some_iff.mp h).2
  · exact fits_of_doubleInt? h

theorem isProper_of_ofJson? {v : Json} (h : ofJson? v = some l) : l.IsProper := by
  cases v with
  | null | array | object => cases h
  | bool | string =>
    obtain rfl := Option.some.inj h
    trivial
  | number n =>
    obtain rfl := Option.some.inj h
    rcases ofNumber_cases n with ⟨i, rfl, hint64, hn⟩ | hn
    · rw [hn]
      exact (Option.ite_none_right_eq_some.mp hint64).1
    · rw [hn]
      trivial

/-- Coercion makes no literal improper, as no reader reads what its type cannot hold. -/
theorem IsProper.coerce? (hl : l.IsProper) (h : l.coerce? type = some w) : w.IsProper := by
  cases type with
  | string =>
    obtain rfl := Option.some.inj h
    trivial
  | int =>
    cases l with
    | int n =>
      obtain rfl := Option.some.inj h
      exact hl
    | double x =>
      obtain ⟨n, hn, rfl⟩ := Option.map_eq_some_iff.mp h
      exact fits_of_doubleInt? hn
    | string s =>
      obtain ⟨n, hn, rfl⟩ := Option.map_eq_some_iff.mp h
      exact fits_of_textInt? hn
    | bool | date => cases h
  | double =>
    obtain ⟨x, -, rfl⟩ := Option.map_eq_some_iff.mp h
    trivial
  | boolean =>
    cases hasType_of_coerce? h with
    | boolean => trivial
  | date =>
    obtain ⟨t, ht, rfl⟩ := Option.map_eq_some_iff.mp h
    cases l with
    | date s =>
      obtain rfl := Option.some.inj ht
      exact hl
    | string s => exact Instant.onClock_of_ofText? ht
    | int n => exact Instant.onClock_of_ofMilliseconds? ht
    | double | bool => cases ht
  | entity => cases h

theorem Obtained.isProper (h : Obtained l) : l.IsProper := by
  induction h with
  | read h => exact isProper_of_ofJson? h
  | coerced _ h ih => exact ih.coerce? (coerce_eq_ok_iff.mp h)

/-! ### What is written and read -/

theorem textInt?_toString {n : Int} (h : Text.fitsInt64 n = true) :
    textInt? (toString n) = some n := by
  have hinteger : Text.integer? (Text.trimChars (toString n).toList) = some n := by
    rw [Text.trimChars_toString, Text.integer?_toString]
  exact textInt?_eq_some_iff.mpr (.inl (int64?_eq_some_iff.mpr ⟨hinteger, h⟩))

/-- **A written literal is read as what it was**, or not at all. -/
theorem coerce?_plain (hl : l.IsProper) (htype : l.HasType type) (hstring : type ≠ .string) :
    (string l.plain).coerce? type = some w ↔ w = l ∧ l.IsReadable := by
  cases htype with
  | string => exact absurd rfl hstring
  | int n =>
    show (textInt? (toString n)).map int = some w ↔ w = int n ∧ True
    rw [textInt?_toString hl, Option.map_some, Option.some_inj, and_true, eq_comm]
  | @double x finite =>
    show ((textDouble? x.toPlain).filter Double.isFinite).map double = some w ↔ w = double x ∧ True
    rw [textDouble?_toPlain, Option.filter_some, if_pos finite, Option.map_some, Option.some_inj,
      and_true, eq_comm]
  | boolean b =>
    have hread : textBool? (Json.boolText b) = some b := by cases b <;> rfl
    show (textBool? (Json.boolText b)).map bool = some w ↔ w = bool b ∧ True
    rw [hread, Option.map_some, Option.some_inj, and_true, eq_comm]
  | date t =>
    show (Instant.ofText? t.toText).map date = some w ↔ w = date t ∧ t.HasFourDigitYear
    rw [Instant.ofText?_toText hl]
    by_cases hyear : t.HasFourDigitYear
    · rw [if_pos hyear, Option.map_some, Option.some_inj, and_iff_left hyear, eq_comm]
    · rw [if_neg hyear]
      exact iff_of_false nofun fun h => hyear h.2

/-- **Numbers, truth values and dates that are written down are read as what they were**, except for
dates whose years are not in 0 to 9999, and these are not read at all. So it is with a literal of
one of these types that is coerced to a text and back, and with a date that is written in JSON. -/
theorem written_read_back (h : Obtained l) (field : String) :
    (∀ type, l.HasType type → type ≠ .string →
      ∃ text, coerce .string field l = .ok (string text) ∧
        ∀ w, coerce type field (string text) = .ok w ↔
          w = l ∧ ∀ t, l = date t → 0 ≤ t.day.year ∧ t.day.year ≤ 9999) ∧
    ∀ t, l = date t →
      ∃ read, ofJson? l.toJson = some read ∧
        ∀ w, coerce .date field read = .ok w ↔
          w = l ∧ 0 ≤ t.day.year ∧ t.day.year ≤ 9999 := by
  constructor
  · intro type htype hstring
    refine ⟨l.plain, by cases l <;> rfl, fun w => ?_⟩
    rw [coerce_eq_ok_iff, coerce?_plain h.isProper htype hstring, isReadable_iff]
    rfl
  · rintro t rfl
    refine ⟨string (date t).plain, rfl, fun w => ?_⟩
    rw [coerce_eq_ok_iff]
    exact coerce?_plain h.isProper (.date t) (by decide)

/-- The last instant of a leap day, a leap second, which was read from a text. -/
theorem written_leap_second_read_back :
    let t : Instant := ⟨1709251199, 1500000000⟩
    Obtained (date t) ∧ coerce .string "due" (date t) =
        .ok (string "2024-02-29T23:59:60.500+00:00") ∧
      coerce .date "due" (string "2024-02-29T23:59:60.500+00:00") = .ok (date t) ∧
      ∃ read, ofJson? (date t).toJson = some read ∧ coerce .date "due" read = .ok (date t) := by
  intro t
  have hread : coerce .date "due" (string "2024-02-29T23:59:60.5Z") = .ok (date t) :=
    coerce_eq_ok_iff.mpr (by decide +kernel)
  have hobtained : Obtained (date t) := .coerced (.read (v := .string _) rfl) hread
  have hyear : 0 ≤ t.day.year ∧ t.day.year ≤ 9999 := by decide +kernel
  have htext : coerce .string "due" (date t) = .ok (string "2024-02-29T23:59:60.500+00:00") :=
    coerce_eq_ok_iff.mpr (by decide +kernel)
  obtain ⟨hback, hjson⟩ := written_read_back hobtained "due"
  obtain ⟨text, htext', hdate⟩ := hback .date (.date t) (by decide)
  obtain ⟨read, hwire, hagain⟩ := hjson t rfl
  have heq := string.inj (Except.ok.inj (htext.symm.trans htext'))
  rw [← heq] at hdate
  refine ⟨hobtained, htext, (hdate _).mpr ⟨rfl, ?_⟩, read, hwire, (hagain _).mpr ⟨rfl, hyear⟩⟩
  rintro _ ⟨⟩
  exact hyear

/-- **The first day of the year 10000** comes from milliseconds, is written with a sign, and is not
read again. -/
theorem year_10000_not_read_back :
    let t : Instant := ⟨253402300800, 0⟩
    Obtained (date t) ∧ (date t).HasType .date ∧
      coerce .string "due" (date t) = .ok (string "+10000-01-01T00:00:00+00:00") ∧
      coerce .date "due" (string "+10000-01-01T00:00:00+00:00") =
        .error (.typeMismatch "due" .date "\"+10000-01-01T00:00:00+00:00\"") ∧
      (date t).toJson = .string "+10000-01-01T00:00:00+00:00" := by
  intro t
  have hmillis : ofJson? (.number (.whole 253402300800000)) = some (int 253402300800000) := rfl
  have hdate : coerce .date "due" (int 253402300800000) = .ok (date t) :=
    coerce_eq_ok_iff.mpr (by decide +kernel)
  have htext : t.toText = "+10000-01-01T00:00:00+00:00" := by decide +kernel
  have hnone : (string "+10000-01-01T00:00:00+00:00").coerce? .date = none := by decide +kernel
  refine ⟨.coerced (.read hmillis) hdate, .date t, ?_, ?_, congrArg Json.string htext⟩
  · exact congrArg (fun text => Except.ok (string text)) htext
  · rw [coerce, hnone]
    rfl

end GuardedSearch.Literal
