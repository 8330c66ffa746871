import GuardedSearch.Proofs.Double.Reading

/-!
# Literals as whole numbers

A literal that is to be a whole number of 64 bits is either a double or a text. A double must be
such a number itself, but the number after the greatest one is let in as well, and becomes the
greatest. A text is read as a whole number if it is written as one, and otherwise as a double; so it
is a whole number already if it is nearest to one among the doubles, whatever number it writes.

What is kept of a number is therefore this. A text whose number is a double is taken for that number
or for none, and so is a double; the one exception is `2 ^ 63`. And nothing that should be accepted
is refused: a text that writes a whole number within the bounds is always taken for one.

## Main results

* `Literal.doubleInt?_eq_some_iff` — the whole number that a double is taken for
* `Literal.exists_textInt?_of_written_int` — whole numbers within the bounds are accepted
* `Literal.taken_for_whole` — what a double or a text has to do with the number it is taken for
* `Literal.taken_for_other_number` — a double and a text that are taken for numbers they are not
-/

namespace GuardedSearch

open Double (intPlace)

namespace Double

theorem whole?_eq_some_iff {x : Double} {n : Int} :
    x.whole? = some n ↔ ∃ f : Finite, x = finite f ∧ f.value = n := by
  have hpos : (0 : Int) < unitsPerOne := Int.natCast_pos.mpr unitsPerOne_pos
  cases x with
  | nan => simp [whole?]
  | infinite negative => simp [whole?]
  | finite f =>
    have hdvd : f.units % unitsPerOne = 0 ↔ (unitsPerOne : Int) ∣ f.signedUnits := by
      rw [← Nat.dvd_iff_mod_eq_zero, ← Int.natCast_dvd_natCast, Finite.signedUnits]
      split
      · exact Int.dvd_neg.symm
      · rfl
    simp only [whole?, finite.injEq, exists_eq_left', Finite.value_eq_int_iff]
    split
    case isTrue hmod =>
      rw [Option.some_inj]
      exact Int.ediv_eq_iff_eq_mul_left hpos.ne' (hdvd.mp hmod)
    case isFalse hmod =>
      refine iff_of_false (Option.some_ne_none n).symm fun hunits => hmod (hdvd.mpr ?_)
      exact hunits ▸ Int.dvd_mul_left _ _

end Double

theorem Text.fitsInt64_iff {n : Int} :
    fitsInt64 n = true ↔ int64Least ≤ n ∧ n ≤ int64Greatest := by
  simp [fitsInt64]

namespace Literal

/-- A double is taken for the whole number that it is, and `2 ^ 63` for the number before. -/
theorem doubleInt?_eq_some_iff {x : Double} {n : Int} :
    doubleInt? x = some n ↔ ∃ f : Double.Finite, x = .finite f ∧
      (f.value = n ∧ Text.fitsInt64 n = true ∨ f.value = 2 ^ 63 ∧ n = Text.int64Greatest) := by
  have hwhole : (∃ f : Double.Finite, x = .finite f ∧
      (f.value = n ∧ Text.fitsInt64 n = true ∨ f.value = 2 ^ 63 ∧ n = Text.int64Greatest)) ↔
        x.whole? = some n ∧ Text.fitsInt64 n = true ∨
          x.whole? = some (2 ^ 63) ∧ n = Text.int64Greatest := by
    have hcast : ((2 ^ 63 : Int) : ℚ) = 2 ^ 63 := by norm_num
    rw [Double.whole?_eq_some_iff, Double.whole?_eq_some_iff, hcast]
    constructor
    · rintro ⟨f, hx, ⟨hvalue, hfits⟩ | ⟨hvalue, hn⟩⟩
      · exact .inl ⟨⟨f, hx, hvalue⟩, hfits⟩
      · exact .inr ⟨⟨f, hx, hvalue⟩, hn⟩
    · rintro (⟨⟨f, hx, hvalue⟩, hfits⟩ | ⟨⟨f, hx, hvalue⟩, hn⟩)
      · exact ⟨f, hx, .inl ⟨hvalue, hfits⟩⟩
      · exact ⟨f, hx, .inr ⟨hvalue, hn⟩⟩
  rw [hwhole, doubleInt?]
  cases x.whole? with
  | none => simp
  | some m =>
    have hleast : Text.int64Least = -2 ^ 63 := by decide
    have hgreatest : Text.int64Greatest = 2 ^ 63 - 1 := by decide
    simp only [Option.some_inj, Text.fitsInt64_iff]
    split
    · rw [Option.some_inj]
      omega
    · refine iff_of_false nofun ?_
      omega

/-- A text is a whole number of 64 bits if it is written as one, and otherwise if it is read as a
double that is taken for one. -/
theorem textInt?_eq_some_iff {s : String} {n : Int} :
    textInt? s = some n ↔ Text.int64? (Text.trimChars s.toList) = some n ∨
      Text.int64? (Text.trimChars s.toList) = none ∧
        ∃ x, textDouble? s = some x ∧ doubleInt? x = some n := by
  rw [textInt?, Option.or_eq_some_iff, Option.bind_eq_some_iff]

theorem int64?_eq_some_iff {cs : List Char} {n : Int} :
    Text.int64? cs = some n ↔ Text.integer? cs = some n ∧ Text.fitsInt64 n = true := by
  rw [Text.int64?, Option.filter_eq_some_iff]

/-! ### Texts -/

/-- The bounds are doubles, and no number within them is rounded beyond them. -/
theorem exists_doubleInt?_of_place {x : Double} {n : Int} (hleast : Text.int64Least ≤ n)
    (hgreatest : n ≤ Text.int64Greatest) (hplace : x.place? = some (intPlace n)) :
    ∃ m, doubleInt? x = some m := by
  have hpos : (0 : Int) < unitsPerOne := Int.natCast_pos.mpr unitsPerOne_pos
  obtain ⟨hgreatestPlace, hleastPlace⟩ := Double.intPlace_two_pow (k := 63) (by decide)
  have hlower : -2 ^ 63 * (unitsPerOne : Int) ≤ intPlace n := by
    rw [← hleastPlace]
    exact Double.intPlace_mono hleast
  have hupper : intPlace n ≤ 2 ^ 63 * (unitsPerOne : Int) := by
    rw [← hgreatestPlace]
    exact Double.intPlace_mono (hgreatest.trans (by decide))
  have hbound : 2 ^ 64 * unitsPerOne ≤ unitsBound := mul_unitsPerOne_le (by decide)
  obtain ⟨f, rfl, hunits⟩ := Double.exists_finite_of_place? hplace (by omega)
  obtain ⟨m, hm⟩ := Double.unitsPerOne_dvd_intPlace n
  rw [hm, mul_comm (unitsPerOne : Int)] at hlower hupper
  have hvalue : f.value = m := by
    rw [Double.Finite.value_eq_int_iff, hunits, hm, mul_comm]
  have hm_least : -2 ^ 63 ≤ m := le_of_mul_le_mul_right hlower hpos
  have hm_greatest : m ≤ 2 ^ 63 := le_of_mul_le_mul_right hupper hpos
  by_cases hmax : m = 2 ^ 63
  · refine ⟨_, doubleInt?_eq_some_iff.mpr ⟨f, rfl, .inr ⟨?_, rfl⟩⟩⟩
    rw [hvalue, hmax]
    norm_num
  · refine ⟨m, doubleInt?_eq_some_iff.mpr ⟨f, rfl, .inl ⟨hvalue, Text.fitsInt64_iff.mpr ?_⟩⟩⟩
    simp only [Text.int64Least, Text.int64Greatest]
    omega

/-- **Whole numbers within the bounds are accepted**, however they are written. The number that is
rounded to another one stays within the bounds, since these are doubles. -/
theorem exists_textInt?_of_written_int {s : String} {n : Int}
    (h : Double.written? (Text.trimChars s.toList) = some (n : ℚ))
    (hfits : Text.fitsInt64 n = true) : ∃ m, textInt? s = some m := by
  cases hwhole : Text.int64? (Text.trimChars s.toList) with
  | some m => exact ⟨m, textInt?_eq_some_iff.mpr (.inl hwhole)⟩
  | none =>
    obtain ⟨x, hx, hplace⟩ := Double.place?_of_written_int h
    obtain ⟨hleast, hgreatest⟩ := Text.fitsInt64_iff.mp hfits
    obtain ⟨m, hm⟩ := exists_doubleInt?_of_place hleast hgreatest hplace
    exact ⟨m, textInt?_eq_some_iff.mpr (.inr ⟨hwhole, x, hx, hm⟩)⟩

/-- A text that writes a double other than `2 ^ 63` is taken for this number or for none, and any
other text for what the double nearest to its number is taken for. -/
theorem exists_written?_of_textInt? {s : String} {n : Int} (h : textInt? s = some n) :
    ∃ q, Double.written? (Text.trimChars s.toList) = some q ∧
      (q = n ∨ ∃ f : Double.Finite, (∀ g : Double.Finite, |q - f.value| ≤ |q - g.value|) ∧
        (f.value = n ∨ f.value = 2 ^ 63 ∧ n = Text.int64Greatest)) ∧
      ∀ g : Double.Finite, q = g.value → q ≠ 2 ^ 63 → q = n := by
  rcases textInt?_eq_some_iff.mp h with hwhole | ⟨-, x, hx, hn⟩
  · exact ⟨n, Double.written?_of_integer? (int64?_eq_some_iff.mp hwhole).1, .inl rfl,
      fun _ _ _ => rfl⟩
  · obtain ⟨f, rfl, hf⟩ := doubleInt?_eq_some_iff.mp hn
    obtain ⟨q, hq, hnear⟩ := Double.nearest_of_ofChars? hx
    have hvalue : f.value = n ∨ f.value = 2 ^ 63 ∧ n = Text.int64Greatest := hf.imp_left And.left
    refine ⟨q, hq, .inr ⟨f, hnear, hvalue⟩, fun g hg hne => ?_⟩
    have hself : q = f.value := by
      have hzero := hnear g
      rw [← hg, sub_self, abs_zero] at hzero
      exact sub_eq_zero.mp (abs_nonpos_iff.mp hzero)
    rcases hvalue with hvalue | ⟨hvalue, -⟩
    · exact hself.trans hvalue
    · exact absurd (hself.trans hvalue) hne

/-- A whole number of at most 53 bits is a double. -/
theorem exists_value_eq_of_le {n : Int} (h : n.natAbs ≤ 2 ^ 53) :
    ∃ g : Double.Finite, (n : ℚ) = g.value := by
  have hbound : 2 ^ 54 * unitsPerOne ≤ unitsBound := mul_unitsPerOne_le (by decide)
  have hpos := unitsPerOne_pos
  have hplace := Double.place?_ofInt n
  rw [Double.intPlace_of_le h] at hplace
  have hmul : (n * (unitsPerOne : Int)).natAbs ≤ 2 ^ 53 * unitsPerOne := by
    rw [Int.natAbs_mul, Int.natAbs_natCast]
    exact Nat.mul_le_mul_right _ h
  obtain ⟨g, -, hunits⟩ := Double.exists_finite_of_place? hplace (by omega)
  exact ⟨g, (Double.Finite.value_eq_int_iff.mpr hunits).symm⟩

theorem coerce?_int_eq_some_iff {n : Int} :
    (∀ x, coerce? .int (.double x) = some (.int n) ↔ doubleInt? x = some n) ∧
      ∀ s, coerce? .int (.string s) = some (.int n) ↔ textInt? s = some n := by
  constructor
  · intro x
    simp [coerce?]
  · intro s
    simp [coerce?]

/-- **What a literal has to do with the whole number that it is taken for.** A double is taken for
the number that it is, if that is a whole number of 64 bits; `2 ^ 63` is taken for the number before
it, and other doubles for none. A text that is taken for a number writes one, and it is either the
number it is taken for, or nearest among the doubles to one that is taken for it; so it is the
number itself whenever it is a double other than `2 ^ 63`. And a text that writes a whole number of
64 bits is taken for some number, which is this one if it is written without a point or an exponent,
or has at most 53 bits. -/
theorem taken_for_whole (x : Double) (s : String) (n : Int) :
    (coerce? .int (.double x) = some (.int n) ↔ ∃ f : Double.Finite, x = .finite f ∧
      (f.value = n ∧ Text.fitsInt64 n = true ∨ f.value = 2 ^ 63 ∧ n = Text.int64Greatest)) ∧
    (coerce? .int (.string s) = some (.int n) →
      ∃ q, Double.written? (Text.trimChars s.toList) = some q ∧
        (q = n ∨ ∃ f : Double.Finite, (∀ g : Double.Finite, |q - f.value| ≤ |q - g.value|) ∧
          (f.value = n ∨ f.value = 2 ^ 63 ∧ n = Text.int64Greatest)) ∧
        ∀ g : Double.Finite, q = g.value → q ≠ 2 ^ 63 → q = n) ∧
    (Double.written? (Text.trimChars s.toList) = some (n : ℚ) → Text.fitsInt64 n = true →
      ∃ m, coerce? .int (.string s) = some (.int m) ∧
        (Text.integer? (Text.trimChars s.toList) = some n ∨ n.natAbs ≤ 2 ^ 53 → m = n)) := by
  refine ⟨?_, fun h => ?_, fun h hfits => ?_⟩
  · rw [coerce?_int_eq_some_iff.1, doubleInt?_eq_some_iff]
  · exact exists_written?_of_textInt? (coerce?_int_eq_some_iff.2 s |>.mp h)
  · obtain ⟨m, hm⟩ := exists_textInt?_of_written_int h hfits
    refine ⟨m, (coerce?_int_eq_some_iff.2 s).mpr hm, ?_⟩
    rintro (hinteger | hsmall)
    · have hn : textInt? s = some n :=
        textInt?_eq_some_iff.mpr (.inl (int64?_eq_some_iff.mpr ⟨hinteger, hfits⟩))
      exact Option.some.inj (hm.symm.trans hn)
    · obtain ⟨q, hq, -, hexact⟩ := exists_written?_of_textInt? hm
      obtain rfl : (n : ℚ) = q := Option.some.inj (h.symm.trans hq)
      obtain ⟨g, hg⟩ := exists_value_eq_of_le hsmall
      have hne : (n : ℚ) ≠ 2 ^ 63 := by
        have hne : n ≠ 2 ^ 63 := by omega
        exact_mod_cast hne
      exact_mod_cast (hexact g hg hne).symm

/-- **Numbers that literals are taken for and are not.** The first whole number beyond the bounds is
taken for the last within them, and a text with a point loses the last bit of its number. -/
theorem taken_for_other_number :
    (∃ f : Double.Finite, f.value = 2 ^ 63 ∧
      coerce? .int (.double (.finite f)) = some (.int (2 ^ 63 - 1))) ∧
    Double.written? "9007199254740993.0".toList = some 9007199254740993 ∧
      coerce? .int (.string "9007199254740993.0") = some (.int 9007199254740992) := by
  have hrepresentable : Representable (2 ^ 63 * unitsPerOne) := by decide +kernel
  have hvalue : (⟨false, 2 ^ 63 * unitsPerOne, hrepresentable⟩ : Double.Finite).value = 2 ^ 63 := by
    rw [Double.Finite.value, Double.Finite.signedUnits, if_neg Bool.false_ne_true]
    push_cast
    exact mul_div_cancel_right₀ _ cast_unitsPerOne_pos.ne'
  refine ⟨⟨_, hvalue, ?_⟩, ?_, by decide +kernel⟩
  · exact coerce?_int_eq_some_iff.1 _ |>.mpr
      (doubleInt?_eq_some_iff.mpr ⟨_, rfl, .inr ⟨hvalue, by decide⟩⟩)
  · have hdecimal : Double.decimal? "9007199254740993.0".toList = some ⟨90071992547409930, -1⟩ := by
      decide +kernel
    have hwritten : Double.written? "9007199254740993.0".toList =
        (Double.decimal? "9007199254740993.0".toList).map Decimal.value := rfl
    rw [hwritten, hdecimal, Option.map_some, Decimal.value]
    norm_num

end Literal

end GuardedSearch
