import GuardedSearch.Literal
import GuardedSearch.Proofs.Double.Decimals
import GuardedSearch.Proofs.Text.CaseFolding
import GuardedSearch.Proofs.Text.Shape

/-!
# Reading doubles

A text that is read as a double writes a number, or it is a word for an infinity or NaN. The number
is `Double.written?`, which is exact: no rounding has any part in it. What a text is read as is then
the double nearest to what it writes, and two texts that write the same number are read alike.

In particular a whole number is read as the double that it is rounded to, whether its text has a
point, an exponent or neither; and what a double is printed as is read as this double.

## Main definitions

* `Double.written?` — the number that a text writes

## Main results

* `Double.nearest_of_ofChars?` — a text is read as the double nearest to what it writes
* `Double.place?_of_written_int` — whole numbers are read as they are rounded
* `Literal.textDouble?_toPlain` — a printed double is read back
-/

namespace GuardedSearch

namespace Double

/-- The number that a text writes, without rounding. A word for an infinity or NaN writes none. -/
def written? : List Char → Option ℚ
  | '+' :: cs => (decimal? cs).map Decimal.value
  | '-' :: cs => (decimal? cs).map fun d => -d.value
  | cs => (decimal? cs).map Decimal.value

/-- All readings of a number take the sign off first. This is what is left to read. -/
def Unsigned (cs : List Char) (negative : Bool) (body : List Char) : Prop :=
  ofChars? cs = unsigned? negative body ∧
    written? cs = (decimal? body).map (fun d => signedValue negative d.value) ∧
    Text.integer? cs = (Text.natural? body).map fun n => signed negative n

theorem unsigned_minus (cs : List Char) : Unsigned ('-' :: cs) true cs := by
  refine ⟨rfl, rfl, ?_⟩
  rw [Text.integer?]
  cases Text.natural? cs <;> rfl

theorem unsigned_plus (cs : List Char) : Unsigned ('+' :: cs) false cs := by
  refine ⟨rfl, rfl, ?_⟩
  rw [Text.integer?]
  cases Text.natural? cs <;> rfl

theorem unsigned_of_ne {c : Char} (hplus : c ≠ '+') (hminus : c ≠ '-') (cs : List Char) :
    Unsigned (c :: cs) false (c :: cs) := by
  refine ⟨?_, ?_, ?_⟩
  · rw [ofChars?] <;> simp [hplus, hminus]
  · rw [written?] <;> simp [hplus, hminus, signedValue]
  · rw [Text.integer?] <;> simp [hplus, hminus]
    cases Text.natural? (c :: cs) <;> rfl

theorem exists_unsigned (cs : List Char) : ∃ negative body, Unsigned cs negative body := by
  rcases cs with _ | ⟨c, cs⟩
  · exact ⟨false, [], rfl, rfl, rfl⟩
  · by_cases hplus : c = '+'
    · exact ⟨false, cs, hplus ▸ unsigned_plus cs⟩
    · by_cases hminus : c = '-'
      · exact ⟨true, cs, hminus ▸ unsigned_minus cs⟩
      · exact ⟨false, c :: cs, unsigned_of_ne hplus hminus cs⟩

/-- A printed number has a minus sign or none, and begins with a digit. -/
theorem unsigned_printed (negative : Bool) {body : List Char} (hne : body ≠ [])
    (h : ∀ c, body.head? = some c → c.isDigit = true) :
    Unsigned ((if negative then ['-'] else []) ++ body) negative body := by
  cases negative with
  | true => exact unsigned_minus body
  | false =>
    obtain ⟨c, cs, rfl⟩ := List.exists_cons_of_ne_nil hne
    have hdigit : c.isDigit = true := h c rfl
    refine unsigned_of_ne ?_ ?_ cs
    · rintro rfl
      exact absurd hdigit (by decide)
    · rintro rfl
      exact absurd hdigit (by decide)

/-! ### Decimals and words -/

/-- A number begins with a digit or a point, once its sign has been taken off. -/
def beginsNumber (cs : List Char) : Bool :=
  cs.head?.any fun c => c.isDigit || c == '.'

theorem beginsNumber_of_decimal? {cs : List Char} {d : Decimal} (h : decimal? cs = some d) :
    beginsNumber cs = true := by
  by_contra hno
  cases cs with
  | nil => cases h
  | cons c cs =>
    obtain ⟨hdigit, hpoint⟩ := Bool.or_eq_false_iff.mp (Bool.not_eq_true _ ▸ hno)
    have hmantissa : mantissa (c :: cs) = ([], [], c :: cs) := by
      simp [mantissa, hdigit, beq_eq_false_iff_ne.mp hpoint]
    rw [decimal?, hmantissa] at h
    cases h

theorem beginsNumber_map_toLower (cs : List Char) :
    beginsNumber (cs.map Char.toLower) = beginsNumber cs := by
  cases cs with
  | nil => rfl
  | cons c cs =>
    exact Text.map_toLower_of_ascii (f := fun c => c.isDigit || c == '.') (by decide +kernel) c

/-- A text that begins as a number is no word for an infinity or NaN. -/
theorem unsigned?_of_beginsNumber {cs : List Char} (h : beginsNumber cs = true)
    (negative : Bool) : unsigned? negative cs = (decimal? cs).map (ofDecimal negative) := by
  have hno : ∀ word : String, beginsNumber word.toList = false →
      String.ofList (cs.map Char.toLower) ≠ word := fun word hword heq => by
    rw [← heq, String.toList_ofList, beginsNumber_map_toLower, h] at hword
    cases hword
  rw [unsigned?]
  split
  case h_1 hword => exact absurd hword (hno "inf" (by decide))
  case h_2 hword => exact absurd hword (hno "infinity" (by decide))
  case h_3 hword => exact absurd hword (hno "nan" (by decide))
  case h_4 => rfl

theorem unsigned?_of_decimal? {cs : List Char} {d : Decimal} (h : decimal? cs = some d)
    (negative : Bool) : unsigned? negative cs = some (ofDecimal negative d) := by
  rw [unsigned?_of_beginsNumber (beginsNumber_of_decimal? h), h, Option.map_some]

theorem exists_decimal?_of_unsigned? {cs : List Char} {negative : Bool} {x : Finite}
    (h : unsigned? negative cs = some (finite x)) :
    ∃ d, decimal? cs = some d ∧ ofDecimal negative d = finite x := by
  rw [unsigned?] at h
  split at h
  · cases h
  · cases h
  · cases h
  · exact Option.map_eq_some_iff.mp h

/-! ### Digits -/

/-- Digits after a point. Where there are none, there is no point. -/
def pointed : List Char → List Char
  | [] => []
  | c :: cs => '.' :: c :: cs

theorem eq_or_mem_of_mem_pointed {cs : List Char} {c : Char} (h : c ∈ pointed cs) :
    c = '.' ∨ c ∈ cs := by
  cases cs with
  | nil => cases h
  | cons d cs => exact List.mem_cons.mp h

theorem mantissa_digits {whole fraction : List Char}
    (hdigits : ∀ c ∈ whole ++ fraction, c.isDigit = true) :
    mantissa (whole ++ pointed fraction) = (whole, fraction, []) := by
  obtain ⟨hwhole, hfraction⟩ := List.forall_mem_append.mp hdigits
  cases fraction with
  | nil =>
    simp [mantissa, pointed, List.takeWhile_eq_self_iff.mpr hwhole,
      List.dropWhile_eq_nil_iff.mpr hwhole]
  | cons c cs =>
    have hpoint : ('.').isDigit = false := by decide
    simp [mantissa, pointed, List.takeWhile_append_of_pos hwhole,
      List.dropWhile_append_of_pos hwhole, hpoint, List.takeWhile_eq_self_iff.mpr hfraction,
      List.dropWhile_eq_nil_iff.mpr hfraction]

theorem decimal?_digits {whole fraction : List Char} (hne : whole ≠ [])
    (hdigits : ∀ c ∈ whole ++ fraction, c.isDigit = true) :
    decimal? (whole ++ pointed fraction) = some (decimalOf whole fraction 0) := by
  rw [decimal?, mantissa_digits hdigits]
  cases whole with
  | nil => exact absurd rfl hne
  | cons c cs => rfl

/-- A whole number is a decimal without a fraction. -/
theorem decimal?_of_natural? {cs : List Char} {n : ℕ} (h : Text.natural? cs = some n) :
    ∃ d, decimal? cs = some d ∧ d.value = n := by
  rw [Text.natural?] at h
  split at h
  case isTrue => cases h
  case isFalse hdigits =>
    obtain rfl := Option.some.inj h
    simp only [Bool.or_eq_true, Bool.not_eq_true', not_or, Bool.not_eq_false,
      List.isEmpty_iff, List.all_eq_true] at hdigits
    refine ⟨decimalOf cs [] 0, ?_, ?_⟩
    · have hread : decimal? (cs ++ pointed []) = some (decimalOf cs [] 0) :=
        decimal?_digits hdigits.1 (by simpa using hdigits.2)
      rwa [pointed, List.append_nil] at hread
    · simp [decimalOf, Decimal.value]

/-! ### Numbers -/

/-- A text that writes a number is read as the double of a decimal that is this number. -/
theorem ofChars?_of_written? {cs : List Char} {q : ℚ} (h : written? cs = some q) :
    ∃ negative d, signedValue negative d.value = q ∧
      ofChars? cs = some (ofDecimal negative d) := by
  obtain ⟨negative, body, hread, hwritten, -⟩ := exists_unsigned cs
  rw [hwritten] at h
  obtain ⟨d, hd, rfl⟩ := Option.map_eq_some_iff.mp h
  exact ⟨negative, d, rfl, hread.trans (unsigned?_of_decimal? hd negative)⟩

/-- **A text is read as the double nearest to what it writes.** -/
theorem nearest_of_ofChars? {cs : List Char} {x : Finite} (h : ofChars? cs = some (finite x)) :
    ∃ q, written? cs = some q ∧ ∀ y : Finite, |q - x.value| ≤ |q - y.value| := by
  obtain ⟨negative, body, hread, hwritten, -⟩ := exists_unsigned cs
  obtain ⟨d, hd, hx⟩ := exists_decimal?_of_unsigned? (hread.symm.trans h)
  exact ⟨signedValue negative d.value, by rw [hwritten, hd]; rfl, nearest_of_ofDecimal hx⟩

theorem written?_of_integer? {cs : List Char} {n : Int} (h : Text.integer? cs = some n) :
    written? cs = some (n : ℚ) := by
  obtain ⟨negative, body, -, hwritten, hinteger⟩ := exists_unsigned cs
  rw [hinteger] at h
  obtain ⟨m, hm, rfl⟩ := Option.map_eq_some_iff.mp h
  obtain ⟨d, hd, hvalue⟩ := decimal?_of_natural? hm
  rw [hwritten, hd, Option.map_some, hvalue, cast_signed]

/-- **Whole numbers are read as they are rounded**, however they are written. -/
theorem place?_of_written_int {cs : List Char} {n : Int} (h : written? cs = some (n : ℚ)) :
    ∃ x, ofChars? cs = some x ∧ x.place? = some (intPlace n) := by
  obtain ⟨negative, d, hvalue, hread⟩ := ofChars?_of_written? h
  have habs : d.value = (n.natAbs : ℕ) := by
    rw [← abs_of_nonneg d.value_nonneg, ← abs_signedValue negative, hvalue, Nat.cast_natAbs,
      Int.cast_abs]
  have hn : signed negative n.natAbs = n := by
    rw [habs, ← cast_signed] at hvalue
    exact_mod_cast hvalue
  have hplace : signed negative (natPlace n.natAbs) = intPlace n := by
    -- either sign will do for zero, and no other number has a choice
    have hzero : natPlace 0 = 0 := by rw [natPlace_of_le (Nat.zero_le _), Nat.zero_mul]
    rw [intPlace]
    by_cases h0 : n = 0
    · subst h0
      simp [signed, hzero]
    · have hsign : negative = decide (n < 0) := by
        cases negative with
        | false =>
          change (n.natAbs : Int) = n at hn
          exact (decide_eq_false (by omega)).symm
        | true =>
          change -(n.natAbs : Int) = n at hn
          exact (decide_eq_true (by omega)).symm
      rw [hsign]
  refine ⟨_, hread, ?_⟩
  rw [place?_ofDecimal, Decimal.units_of_value_eq_nat habs, ← hplace, natPlace]

end Double

/-! ### Printed numbers -/

namespace Decimal

theorem isDigit_of_mem_digitChars {d : Decimal} {c : Char} (h : c ∈ d.digitChars) :
    c.isDigit = true :=
  Nat.isDigit_of_mem_toDigits (by decide) (by decide) h

theorem isDigit_of_mem_zeros {n : ℕ} {c : Char} (h : c ∈ zeros n) : c.isDigit = true := by
  rw [List.eq_of_mem_replicate h]
  decide

theorem ofDigits_digitChars (d : Decimal) : Text.ofDigits d.digitChars = d.digits :=
  Nat.ofDigitChars_ten_toDigits

theorem ofDigits_append_zeros (cs : List Char) (n : ℕ) :
    Text.ofDigits (cs ++ zeros n) = 10 ^ n * Text.ofDigits cs :=
  (Nat.ofDigitChars_append 0).trans Nat.ofDigitChars_replicate_zero

theorem ofDigits_zeros_append (n : ℕ) (cs : List Char) :
    Text.ofDigits (zeros n ++ cs) = Text.ofDigits cs := by
  have hzero : Nat.ofDigitChars 10 (zeros n) 0 = 0 := Nat.ofDigitChars_replicate_zero
  exact (Nat.ofDigitChars_append 0).trans (by rw [hzero]; rfl)

/-- A decimal without an exponent is made of digits, with a point between them if need be. -/
theorem exists_positional (d : Decimal) : ∃ whole fraction, whole ≠ [] ∧
    (∀ c ∈ whole ++ fraction, c.isDigit = true) ∧
      d.positional [] = whole ++ Double.pointed fraction ∧
      (Double.decimalOf whole fraction 0).value = d.value := by
  have hne : d.digitChars ≠ [] := Nat.toDigits_ne_nil
  have hlength : 0 < d.digitChars.length := List.length_pos_iff.mpr hne
  have hpointed : ∀ {cs : List Char}, cs ≠ [] → Double.pointed cs = '.' :: cs := fun h => by
    obtain ⟨c, cs, rfl⟩ := List.exists_cons_of_ne_nil h
    rfl
  rw [positional]
  split
  case isTrue hexp =>
    obtain ⟨k, hk⟩ := Int.eq_ofNat_of_zero_le hexp
    refine ⟨d.digitChars ++ zeros d.exponent.toNat, [], by simp [hne], ?_, rfl, ?_⟩
    · rw [List.append_nil]
      exact List.forall_mem_append.mpr
        ⟨fun c => isDigit_of_mem_digitChars, fun c => isDigit_of_mem_zeros⟩
    · rw [Double.decimalOf, List.append_nil, ofDigits_append_zeros, ofDigits_digitChars, value,
        value, hk]
      simp [mul_comm]
  case isFalse hexp =>
    have hexponent : 0 - ((-d.exponent).toNat : Int) = d.exponent := by omega
    simp only []
    split
    case isTrue hinside =>
      -- the point stands between the digits
      have hdrop : (d.digitChars.drop (d.digitChars.length - (-d.exponent).toNat)).length =
          (-d.exponent).toNat := by
        rw [List.length_drop]
        omega
      refine ⟨d.digitChars.take (d.digitChars.length - (-d.exponent).toNat),
        d.digitChars.drop (d.digitChars.length - (-d.exponent).toNat), ?_, ?_, ?_, ?_⟩
      · rw [← List.length_pos_iff, List.length_take]
        omega
      · rw [List.take_append_drop]
        exact fun c => isDigit_of_mem_digitChars
      · rw [hpointed (by rw [← List.length_pos_iff, hdrop]; omega)]
      · rw [Double.decimalOf, List.take_append_drop, ofDigits_digitChars, hdrop, hexponent]
    case isFalse hbefore =>
      -- zeros stand between the point and the digits
      have hfraction : (zeros ((-d.exponent).toNat - d.digitChars.length) ++ d.digitChars).length =
          (-d.exponent).toNat := by
        rw [List.length_append, zeros, List.length_replicate]
        omega
      refine ⟨['0'], zeros ((-d.exponent).toNat - d.digitChars.length) ++ d.digitChars,
        List.cons_ne_nil _ _, ?_, ?_, ?_⟩
      · refine List.forall_mem_append.mpr ⟨?_, List.forall_mem_append.mpr
          ⟨fun c => isDigit_of_mem_zeros, fun c => isDigit_of_mem_digitChars⟩⟩
        exact List.forall_mem_singleton.mpr (by decide)
      · rw [hpointed (by simp [hne])]
        rfl
      · have hone : ['0'] = zeros 1 := rfl
        rw [Double.decimalOf, hone, ofDigits_zeros_append, ofDigits_zeros_append,
          ofDigits_digitChars, hfraction, hexponent]

end Decimal

namespace Text

theorem trimChars_of_forall {cs : List Char} (h : ∀ c ∈ cs, isBlank c = false) :
    trimChars cs = cs :=
  trimChars_of_head_of_last (fun c hc => h c (List.mem_of_head? hc))
    (fun c hc => h c (List.mem_of_getLast? hc))

theorem natural?_toDigits (n : ℕ) : natural? (Nat.toDigits 10 n) = some n := by
  have hdigits : (Nat.toDigits 10 n).all Char.isDigit = true :=
    List.all_eq_true.mpr fun c hc => Nat.isDigit_of_mem_toDigits (by decide) (by decide) hc
  have hvalue : ofDigits (Nat.toDigits 10 n) = n := Nat.ofDigitChars_ten_toDigits
  have hne : (Nat.toDigits 10 n).isEmpty = false := by simp
  rw [natural?, hdigits, hne, hvalue]
  rfl

/-- A printed whole number is its digits, behind a sign if it is negative. -/
theorem toList_toString (n : Int) :
    (toString n).toList = (if n < 0 then ['-'] else []) ++ Nat.toDigits 10 n.natAbs := by
  rcases n with m | m
  · change (toString m).toList = _
    rw [Nat.toString_eq_ofList_toDigits, String.toList_ofList]
    simp
  · change ("-" ++ toString (m + 1)).toList = _
    rw [if_pos (Int.negSucc_lt_zero m), Int.natAbs_negSucc, Nat.toString_eq_ofList_toDigits,
      String.toList_append, String.toList_ofList, String.toList_ofList]

/-- A printed whole number is read back. -/
theorem integer?_toString (n : Int) : integer? (toString n).toList = some n := by
  have hdigit : ∀ c, (Nat.toDigits 10 n.natAbs).head? = some c → c.isDigit = true := fun c hc =>
    Nat.isDigit_of_mem_toDigits (by decide) (by decide) (List.mem_of_head? hc)
  have hread := (Double.unsigned_printed (n < 0) Nat.toDigits_ne_nil hdigit).2.2
  simp only [decide_eq_true_eq] at hread
  rw [toList_toString, hread, natural?_toDigits, Option.map_some, Double.signed_natAbs]

theorem trimChars_toString (n : Int) : trimChars (toString n).toList = (toString n).toList := by
  refine trimChars_of_forall fun c hc => ?_
  rw [toList_toString, List.mem_append] at hc
  rcases hc with hc | hc
  · split at hc
    · obtain rfl := List.mem_singleton.mp hc
      decide
    · cases hc
  · exact isBlank_of_isDigit (Nat.isDigit_of_mem_toDigits (by decide) (by decide) hc)

end Text

namespace Literal

/-- A printed whole number is read as the double that it is rounded to. -/
theorem place?_textDouble?_toString (n : Int) :
    ∃ x, textDouble? (toString n) = some x ∧ x.place? = some (Double.intPlace n) := by
  rw [textDouble?, Text.trimChars_toString]
  exact Double.place?_of_written_int (Double.written?_of_integer? (Text.integer?_toString n))

/-- **A printed double is read back.** -/
theorem textDouble?_toPlain (x : Double) : textDouble? x.toPlain = some x := by
  cases x with
  | nan => decide
  | infinite negative => cases negative <;> decide
  | finite x =>
    obtain ⟨d, hunits, htext⟩ : ∃ d : Decimal, d.units = x.units ∧
        (Double.finite x).toPlain = String.ofList (x.sign ++ d.positional []) := by
      rw [Double.toPlain]
      by_cases hzero : x.units = 0
      · refine ⟨⟨0, 0⟩, ?_, by rw [if_pos hzero]; rfl⟩
        rw [hzero]
        refine Decimal.units_eq_zero ?_
        rw [Decimal.value, Nat.cast_zero, zero_mul, zero_mul]
        norm_num
      · exact ⟨_, Double.units_shortest .away x.representable, by rw [if_neg hzero]⟩
    obtain ⟨whole, fraction, hne, hdigits, hpositional, hvalue⟩ := d.exists_positional
    have hread : Double.unsigned? x.negative (whole ++ Double.pointed fraction) =
        some (.finite x) := by
      rw [Double.unsigned?_of_decimal? (Double.decimal?_digits hne hdigits), Double.ofDecimal_eq,
        Decimal.units_congr hvalue, hunits]
      exact congrArg some (dif_pos x.representable)
    have hfirst : ∀ c, (whole ++ Double.pointed fraction).head? = some c → c.isDigit = true := by
      obtain ⟨w, ws, rfl⟩ := List.exists_cons_of_ne_nil hne
      intro c hc
      obtain rfl := Option.some.inj hc
      exact hdigits w List.mem_cons_self
    have hblank : ∀ c ∈ x.sign ++ (whole ++ Double.pointed fraction), Text.isBlank c = false := by
      have hdigit : ∀ c ∈ whole ++ fraction, Text.isBlank c = false :=
        fun c hc => Text.isBlank_of_isDigit (hdigits c hc)
      obtain ⟨hwhole, hfraction⟩ := List.forall_mem_append.mp hdigit
      have hsign : ∀ c ∈ x.sign, Text.isBlank c = false := by
        rw [Double.Finite.sign]
        cases x.negative with
        | true => exact List.forall_mem_singleton.mpr (by decide)
        | false => exact List.forall_mem_nil _
      refine List.forall_mem_append.mpr ⟨hsign, List.forall_mem_append.mpr ⟨hwhole, ?_⟩⟩
      intro c hc
      rcases Double.eq_or_mem_of_mem_pointed hc with rfl | hc
      · decide
      · exact hfraction c hc
    rw [htext, textDouble?, String.toList_ofList, hpositional, Text.trimChars_of_forall hblank]
    exact (Double.unsigned_printed x.negative (by simp [hne]) hfirst).1.trans hread

end Literal

end GuardedSearch
