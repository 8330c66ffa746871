import GuardedSearch.Proofs.Double.Reading

/-!
# Numbers written alike

Sorting orders texts by their characters, whatever they write. For numbers that is their own order
only if they are written alike: without a sign, with as many digits before the point and after it,
and with the same exponent if there is one. Then digit stands under digit.

## Main definitions

* `Double.WrittenAlike` — two texts write numbers digit under digit

## Main results

* `Double.place_le_of_writtenAlike` — the order of such texts is that of the doubles that they are
  read as
-/

namespace GuardedSearch

namespace Double

/-- The texts differ in their digits only, begin with one, and write decimals of one exponent. -/
structure WrittenAlike (cs ds : List Char) : Prop where
  shape : Text.SameShape cs ds
  begins : cs.head?.any Char.isDigit = true
  exponent : (decimal? cs).map Decimal.exponent = (decimal? ds).map Decimal.exponent

theorem WrittenAlike.symm {cs ds : List Char} (h : WrittenAlike cs ds) : WrittenAlike ds cs where
  shape := h.shape.symm
  begins := h.shape.head?_isDigit ▸ h.begins
  exponent := h.exponent.symm

/-! ### Decimals -/

theorem mantissa_of_point {cs rest : List Char} (h : cs.dropWhile Char.isDigit = '.' :: rest) :
    mantissa cs = (cs.takeWhile Char.isDigit, rest.takeWhile Char.isDigit,
      rest.dropWhile Char.isDigit) := by
  rw [mantissa, h]
  rfl

theorem mantissa_of_no_point {cs : List Char}
    (h : ∀ rest, cs.dropWhile Char.isDigit ≠ '.' :: rest) :
    mantissa cs = (cs.takeWhile Char.isDigit, [], cs.dropWhile Char.isDigit) := by
  rw [mantissa]
  split
  case h_1 rest hrest => exact absurd hrest (h rest)
  case h_2 => rfl

theorem isDigit_of_mem_takeWhile {cs : List Char} :
    ∀ c ∈ cs.takeWhile Char.isDigit, c.isDigit = true :=
  fun _ hc => List.mem_takeWhile_imp hc

/-- The digits of the mantissa, with or without a point, are read in step. -/
theorem mantissa_inStep {cs ds : List Char} (h : Text.SameShape cs ds) :
    Text.InStep cs ds (Text.ofDigits ((mantissa cs).1 ++ (mantissa cs).2.1))
      (Text.ofDigits ((mantissa ds).1 ++ (mantissa ds).2.1)) (mantissa cs).2.2
      (mantissa ds).2.2 := by
  obtain ⟨hlength, hrest⟩ := h.span_isDigit
  have hcs_split : cs.takeWhile Char.isDigit ++ cs.dropWhile Char.isDigit = cs :=
    List.takeWhile_append_dropWhile
  have hds_split : ds.takeWhile Char.isDigit ++ ds.dropWhile Char.isDigit = ds :=
    List.takeWhile_append_dropWhile
  by_cases hpoint : ∃ rest, cs.dropWhile Char.isDigit = '.' :: rest
  · -- without the point, the digits before it and after it are one number
    obtain ⟨cs', hcs⟩ := hpoint
    obtain ⟨ds', hds, hshape⟩ := Text.SameShape.exists_cons (hcs ▸ hrest) (by decide)
    obtain ⟨hlength', hrest'⟩ := hshape.span_isDigit
    have hlengths : (cs.takeWhile Char.isDigit ++ cs'.takeWhile Char.isDigit).length =
        (ds.takeWhile Char.isDigit ++ ds'.takeWhile Char.isDigit).length := by
      rw [List.length_append, List.length_append, hlength, hlength']
    have hstep := Text.inStep_append hlengths
      (List.forall_mem_append.mpr ⟨isDigit_of_mem_takeWhile, isDigit_of_mem_takeWhile⟩)
      (List.forall_mem_append.mpr ⟨isDigit_of_mem_takeWhile, isDigit_of_mem_takeWhile⟩) hrest'
    rw [List.append_assoc, List.append_assoc, List.takeWhile_append_dropWhile,
      List.takeWhile_append_dropWhile] at hstep
    rw [mantissa_of_point hcs, mantissa_of_point hds]
    refine ⟨hrest', ?_⟩
    rw [← hstep.lt_iff, ← Text.append_cons_lt_append_cons_iff hlength '.', ← hcs, ← hds, hcs_split,
      hds_split]
  · have hpoint' : ¬ ∃ rest, ds.dropWhile Char.isDigit = '.' :: rest := by
      rintro ⟨ds', hds⟩
      obtain ⟨cs', hcs, -⟩ := Text.SameShape.exists_cons (hds ▸ hrest.symm) (by decide)
      exact hpoint ⟨cs', hcs⟩
    rw [mantissa_of_no_point (not_exists.mp hpoint), mantissa_of_no_point (not_exists.mp hpoint')]
    have hstep := Text.inStep_append hlength isDigit_of_mem_takeWhile isDigit_of_mem_takeWhile hrest
    rw [hcs_split, hds_split] at hstep
    simpa using hstep

theorem digits_of_decimal? {cs : List Char} {d : Decimal} (h : decimal? cs = some d) :
    d.digits = Text.ofDigits ((mantissa cs).1 ++ (mantissa cs).2.1) := by
  rw [decimal?] at h
  split at h
  · cases h
  case h_2 whole fraction hne hmantissa =>
    obtain rfl := Option.some.inj h
    rw [hmantissa]
    rfl
  case h_3 whole fraction c rest hne hmantissa =>
    split at h
    · obtain ⟨exponent, -, rfl⟩ := Option.map_eq_some_iff.mp h
      rw [hmantissa]
      rfl
    · cases h

/-! ### Doubles -/

/-- A text that begins with a digit has no sign and is no word. -/
theorem exists_decimal?_of_begins {cs : List Char} (h : cs.head?.any Char.isDigit = true)
    {x : Double} (hx : ofChars? cs = some x) :
    ∃ d, decimal? cs = some d ∧ x = ofDecimal false d := by
  cases cs with
  | nil => cases h
  | cons c cs =>
    have hdigit : c.isDigit = true := h
    have hbegins : beginsNumber (c :: cs) = true := Bool.or_eq_true_iff.mpr (.inl hdigit)
    have hread : ofChars? (c :: cs) = unsigned? false (c :: cs) :=
      (unsigned_printed false (List.cons_ne_nil c cs) fun c' hc' =>
        Option.some.inj hc' ▸ hdigit).1
    rw [hread, unsigned?_of_beginsNumber hbegins] at hx
    obtain ⟨d, hd, hx⟩ := Option.map_eq_some_iff.mp hx
    exact ⟨d, hd, hx.symm⟩

/-- **The order of texts that write numbers alike is that of the doubles they are read as**, but for
numbers that are rounded to the same double. -/
theorem place_le_of_writtenAlike {cs ds : List Char} (h : WrittenAlike cs ds) {x y : Double}
    (hx : ofChars? cs = some x) (hy : ofChars? ds = some y) (hle : ¬ cs < ds) :
    ∃ p q, x.place? = some p ∧ y.place? = some q ∧ q ≤ p := by
  obtain ⟨d, hd, rfl⟩ := exists_decimal?_of_begins h.begins hx
  obtain ⟨e, he, rfl⟩ := exists_decimal?_of_begins h.symm.begins hy
  have hexponent : d.exponent = e.exponent := by
    have hmap := h.exponent
    rw [hd, he] at hmap
    exact Option.some.inj hmap
  have hdigits : e.digits ≤ d.digits := by
    rw [digits_of_decimal? hd, digits_of_decimal? he]
    exact ((mantissa_inStep h.shape).le hle).1
  have hvalue : e.value ≤ d.value := by
    rw [Decimal.value, Decimal.value, hexponent]
    exact mul_le_mul_of_nonneg_right (Nat.cast_le.mpr hdigits) (by positivity)
  have hunits : e.units ≤ d.units := Decimal.units_mono hvalue
  refine ⟨_, _, place?_ofDecimal false d, place?_ofDecimal false e, ?_⟩
  change ((min e.units unitsBound : ℕ) : Int) ≤ (min d.units unitsBound : ℕ)
  omega

end Double

end GuardedSearch
