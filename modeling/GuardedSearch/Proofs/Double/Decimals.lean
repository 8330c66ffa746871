import GuardedSearch.Double.Decimal
import GuardedSearch.Proofs.Double.Places
import Mathlib.Algebra.Order.Field.Power
import Mathlib.Data.Rat.Cast.Order
import Mathlib.Tactic.FieldSimp
import Mathlib.Tactic.Linarith
import Mathlib.Tactic.Positivity

/-!
# Decimals as numbers

A decimal is a rational number, and its units are those that the number is rounded to: written
another way, with more zeros or another exponent, it has the same. The guards on the size of a
decimal change nothing. They are there to keep the arithmetic small, and where they step in,
rounding would have led to zero or beyond all finite doubles as well.

## Main definitions

* `Decimal.value`, `Double.Finite.value` — the rational number that a decimal or a double is

## Main results

* `Decimal.units_eq` — the units of a decimal are those that its value is rounded to
* `Double.ofDecimal_eq` — the guards change nothing
* `Double.nearest_of_ofDecimal` — no finite double is nearer to a decimal than the one it is read as
-/

namespace GuardedSearch

theorem cast_unitsPerOne_pos : (0 : ℚ) < (unitsPerOne : ℚ) :=
  Nat.cast_pos.mpr unitsPerOne_pos

namespace Decimal

/-- The number that a decimal is. -/
def value (d : Decimal) : ℚ :=
  d.digits * 10 ^ d.exponent

theorem value_nonneg (d : Decimal) : 0 ≤ d.value := by
  unfold value
  positivity

/-! ### Units -/

/-- The units of a decimal are a ratio that has been rounded, and the ratio is its value. -/
theorem exists_ratio (d : Decimal) : ∃ num den : ℕ, 0 < den ∧
    d.value * unitsPerOne = num / den ∧ d.units = Double.roundUnits num den := by
  obtain ⟨digits, exponent⟩ := d
  by_cases hexp : 0 ≤ exponent
  · refine ⟨digits * Nat.pow 10 exponent.toNat * unitsPerOne, 1, Nat.one_pos, ?_, if_pos hexp⟩
    obtain ⟨k, rfl⟩ := Int.eq_ofNat_of_zero_le hexp
    generalize unitsPerOne = one
    simp [value]
  · refine ⟨digits * unitsPerOne, Nat.pow 10 (-exponent).toNat, Nat.pow_pos (by decide), ?_,
      if_neg hexp⟩
    obtain ⟨k, hk⟩ := Int.eq_ofNat_of_zero_le (a := -exponent) (by omega)
    obtain rfl : exponent = -(k : Int) := by omega
    generalize unitsPerOne = one
    simp only [value, Int.neg_neg, Int.toNat_natCast, Nat.pow_eq, zpow_neg, zpow_natCast,
      Nat.cast_mul, Nat.cast_pow, Nat.cast_ofNat]
    field_simp

theorem units_eq {d : Decimal} {num den : ℕ} (hden : 0 < den)
    (h : d.value * unitsPerOne = num / den) : d.units = Double.roundUnits num den := by
  obtain ⟨num', den', hden', hvalue, hunits⟩ := d.exists_ratio
  rw [hunits]
  refine Double.roundUnits_congr hden' hden ?_
  have hratio : (num' : ℚ) / den' = num / den := hvalue.symm.trans h
  rw [div_eq_div_iff (by positivity) (by positivity)] at hratio
  exact_mod_cast hratio

/-- Rounding keeps the order of decimals. -/
theorem units_mono {d e : Decimal} (h : d.value ≤ e.value) : d.units ≤ e.units := by
  obtain ⟨num, den, hden, hvalue, hunits⟩ := d.exists_ratio
  obtain ⟨num', den', hden', hvalue', hunits'⟩ := e.exists_ratio
  rw [hunits, hunits']
  refine Double.roundUnits_mono hden hden' ?_
  have hratio : (num : ℚ) / den ≤ num' / den' := by
    rw [← hvalue, ← hvalue']
    exact mul_le_mul_of_nonneg_right h cast_unitsPerOne_pos.le
  rw [div_le_div_iff₀ (by positivity) (by positivity)] at hratio
  exact_mod_cast hratio

/-- Decimals of one value have the same units, however they are written. -/
theorem units_congr {d e : Decimal} (h : d.value = e.value) : d.units = e.units :=
  le_antisymm (units_mono h.le) (units_mono h.ge)

theorem units_of_value_eq_nat {d : Decimal} {n : ℕ} (h : d.value = n) :
    d.units = Double.roundUnits (n * unitsPerOne) 1 :=
  units_eq Nat.one_pos (by rw [h, Nat.cast_mul, Nat.cast_one, div_one])

theorem onGrid_units (d : Decimal) : OnGrid d.units := by
  obtain ⟨num, den, -, -, hunits⟩ := d.exists_ratio
  rw [hunits]
  exact Double.onGrid_roundUnits num den

/-- No point of the grid is nearer than the units. -/
theorem units_nearest (d : Decimal) {v : ℕ} (hv : OnGrid v) :
    |d.value * unitsPerOne - d.units| ≤ |d.value * unitsPerOne - v| := by
  obtain ⟨num, den, hden, hvalue, hunits⟩ := d.exists_ratio
  have hden' : (0 : ℚ) < den := Nat.cast_pos.mpr hden
  have hscale : ∀ w : ℕ, |(num : ℚ) / den - w| = |(num : ℚ) - w * den| / den := fun w => by
    rw [← abs_of_pos hden', ← abs_div, abs_of_pos hden', sub_div, mul_div_cancel_right₀ _ hden'.ne']
  have hnear := Double.roundUnits_nearest num hden hv
  rw [hvalue, hunits, hscale, hscale]
  refine div_le_div_of_nonneg_right ?_ hden'.le
  have hcast : (((num : Int) - (Double.roundUnits num den * den : ℕ)).natAbs : ℚ) ≤
      ((num : Int) - (v * den : ℕ)).natAbs := Nat.cast_le.mpr hnear
  simpa [Nat.cast_natAbs] using hcast

/-! ### Guards -/

theorem digits_lt_pow_width (d : Decimal) : d.digits < 10 ^ width d.digits :=
  (Nat.length_toDigits_le_iff (by decide) Nat.length_toDigits_pos).mp le_rfl

theorem pow_width_le_digits {d : Decimal} (h : d.digits ≠ 0) :
    10 ^ (width d.digits - 1) ≤ d.digits := by
  by_contra hlt
  rcases Nat.eq_zero_or_pos (width d.digits - 1) with hzero | hpos
  · rw [hzero] at hlt
    omega
  · have hle : width d.digits ≤ width d.digits - 1 :=
      (Nat.length_toDigits_le_iff (by decide) hpos).mpr (Nat.lt_of_not_le hlt)
    omega

theorem value_lt_pow_magnitude (d : Decimal) : d.value < 10 ^ d.magnitude := by
  rw [value, magnitude, zpow_add₀ (by norm_num), zpow_natCast, mul_comm]
  refine mul_lt_mul_of_pos_left ?_ (by positivity)
  exact_mod_cast d.digits_lt_pow_width

theorem pow_magnitude_le_value {d : Decimal} (h : d.digits ≠ 0) :
    10 ^ (d.magnitude - 1) ≤ d.value := by
  have hwidth : 0 < width d.digits := Nat.length_toDigits_pos
  have hexp : d.magnitude - 1 = (width d.digits - 1 : ℕ) + d.exponent := by
    rw [magnitude]
    omega
  rw [value, hexp, zpow_add₀ (by norm_num), zpow_natCast]
  refine mul_le_mul_of_nonneg_right ?_ (by positivity)
  exact_mod_cast pow_width_le_digits h

/-- A decimal below half a unit has no units. -/
theorem units_eq_zero {d : Decimal} (h : d.value * unitsPerOne ≤ 1 / 2) : d.units = 0 := by
  obtain ⟨num, den, hden, hvalue, hunits⟩ := d.exists_ratio
  have hhalf : Double.roundUnits 1 2 = 0 := by decide
  rw [hunits, ← Nat.le_zero, ← hhalf]
  refine Double.roundUnits_mono hden (by decide) ?_
  rw [hvalue, div_le_div_iff₀ (by positivity) (by norm_num)] at h
  exact_mod_cast h

/-- A decimal from the bound on has units beyond it. -/
theorem unitsBound_le_units {d : Decimal} (h : (unitsBound : ℚ) ≤ d.value * unitsPerOne) :
    unitsBound ≤ d.units := by
  obtain ⟨num, den, hden, hvalue, hunits⟩ := d.exists_ratio
  have hgrid : OnGrid unitsBound := by
    unfold unitsBound
    generalize 2098 = k
    exact onGrid_two_pow k
  rw [hunits]
  refine Double.le_roundUnits_of_onGrid hden hgrid ?_
  rw [hvalue, le_div_iff₀ (by positivity)] at h
  exact_mod_cast h

end Decimal

namespace Double

theorem two_mul_unitsPerOne_le : 2 * unitsPerOne ≤ 10 ^ 330 := by
  decide +kernel

theorem unitsBound_le_pow_mul : unitsBound ≤ 10 ^ 310 * unitsPerOne := by
  decide +kernel

/-- **The guards change nothing.** What they keep from being rounded would have been rounded to
zero, or beyond all finite doubles. -/
theorem ofDecimal_eq (negative : Bool) (d : Decimal) :
    ofDecimal negative d = ofUnits negative d.units := by
  rw [ofDecimal]
  split
  case isTrue hsmall =>
    suffices htiny : d.value * unitsPerOne ≤ 1 / 2 by rw [Decimal.units_eq_zero htiny]
    rcases hsmall with hzero | hmagnitude
    · rw [Decimal.value, hzero, Nat.cast_zero, zero_mul, zero_mul]
      norm_num
    · have hpow : d.value ≤ 10 ^ (-330 : ℤ) := d.value_lt_pow_magnitude.le.trans
        (zpow_le_zpow_right₀ (by norm_num) hmagnitude.le)
      have hhalf : ∀ k : ℕ, (2 : ℚ) * unitsPerOne ≤ 10 ^ k →
          (10 : ℚ) ^ (-(k : ℤ)) * unitsPerOne ≤ 1 / 2 := fun k hk => by
        rw [zpow_neg, zpow_natCast, inv_mul_eq_div, div_le_div_iff₀ (by positivity) (by norm_num)]
        linarith
      calc d.value * unitsPerOne
          ≤ 10 ^ (-330 : ℤ) * unitsPerOne :=
            mul_le_mul_of_nonneg_right hpow cast_unitsPerOne_pos.le
        _ ≤ 1 / 2 := hhalf 330 (by exact_mod_cast two_mul_unitsPerOne_le)
  case isFalse hsmall =>
    split
    case isTrue hlarge =>
      refine (ofUnits_of_le (Decimal.unitsBound_le_units ?_) negative).symm
      have hdigits : d.digits ≠ 0 := fun h => hsmall (.inl h)
      have hmagnitude := Decimal.pow_magnitude_le_value hdigits
      have hpow : (10 : ℚ) ^ (310 : ℤ) ≤ d.value :=
        (zpow_le_zpow_right₀ (by norm_num) (by omega)).trans hmagnitude
      calc (unitsBound : ℚ)
          ≤ 10 ^ 310 * unitsPerOne := by exact_mod_cast unitsBound_le_pow_mul
        _ ≤ d.value * unitsPerOne := by
            refine mul_le_mul_of_nonneg_right ?_ cast_unitsPerOne_pos.le
            exact_mod_cast hpow
    case isFalse hlarge => rfl

theorem place?_ofDecimal (negative : Bool) (d : Decimal) :
    (ofDecimal negative d).place? = some (signed negative (min d.units unitsBound)) := by
  rw [ofDecimal_eq, place?_ofUnits d.onGrid_units]

/-! ### Values -/

/-- The number that a finite double is. -/
def Finite.value (x : Finite) : ℚ :=
  x.signedUnits / unitsPerOne

theorem Finite.value_mul_unitsPerOne (x : Finite) : x.value * unitsPerOne = x.signedUnits :=
  div_mul_cancel₀ _ cast_unitsPerOne_pos.ne'

/-- A double is a whole number if it is that many ones. -/
theorem Finite.value_eq_int_iff {x : Finite} {n : Int} :
    x.value = n ↔ x.signedUnits = n * unitsPerOne := by
  rw [value, div_eq_iff cast_unitsPerOne_pos.ne']
  exact_mod_cast Iff.rfl

theorem Finite.abs_signedUnits (x : Finite) : |(x.signedUnits : ℚ)| = x.units := by
  rw [← Int.cast_abs, Int.abs_eq_natAbs, x.natAbs_signedUnits, Int.cast_natCast]

/-- A number with a sign. -/
def signedValue (negative : Bool) (q : ℚ) : ℚ :=
  if negative then -q else q

theorem signedValue_sub (negative : Bool) (q r : ℚ) :
    |signedValue negative q - signedValue negative r| = |q - r| := by
  rw [signedValue, signedValue]
  split
  · rw [← neg_sub_neg, neg_neg, neg_neg, abs_sub_comm]
  · rfl

theorem abs_signedValue (negative : Bool) (q : ℚ) : |signedValue negative q| = |q| := by
  simpa [signedValue] using signedValue_sub negative q 0

theorem cast_signed (negative : Bool) (u : ℕ) :
    (signed negative u : ℚ) = signedValue negative u := by
  rw [signed, signedValue]
  split <;> simp

theorem signedValue_mul (negative : Bool) (q r : ℚ) :
    signedValue negative q * r = signedValue negative (q * r) := by
  rw [signedValue, signedValue]
  split
  · rw [neg_mul]
  · rfl

/-- A magnitude that becomes a finite double is that of the double. -/
theorem signedUnits_of_ofUnits {negative : Bool} {u : ℕ} {x : Finite}
    (h : ofUnits negative u = finite x) : x.signedUnits = signed negative u := by
  rw [ofUnits] at h
  split at h
  · cases h
    rfl
  · cases h

/-- **No finite double is nearer to a decimal than the one it is read as.** -/
theorem nearest_of_ofDecimal {negative : Bool} {d : Decimal} {x : Finite}
    (h : ofDecimal negative d = finite x) (y : Finite) :
    |signedValue negative d.value - x.value| ≤ |signedValue negative d.value - y.value| := by
  have hscale : ∀ z : Finite, |signedValue negative d.value - z.value| * unitsPerOne =
      |signedValue negative (d.value * unitsPerOne) - z.signedUnits| := fun z => by
    rw [← abs_of_pos cast_unitsPerOne_pos, ← abs_mul, abs_of_pos cast_unitsPerOne_pos, sub_mul,
      z.value_mul_unitsPerOne, signedValue_mul]
  have hvalue : 0 ≤ d.value * unitsPerOne := mul_nonneg d.value_nonneg cast_unitsPerOne_pos.le
  rw [ofDecimal_eq] at h
  refine le_of_mul_le_mul_right ?_ cast_unitsPerOne_pos
  rw [hscale, hscale, signedUnits_of_ofUnits h, cast_signed, signedValue_sub]
  calc |d.value * unitsPerOne - d.units|
      ≤ |d.value * unitsPerOne - y.units| := d.units_nearest y.representable.2
    _ = |(|signedValue negative (d.value * unitsPerOne)| - |(y.signedUnits : ℚ)|)| := by
        rw [abs_signedValue, abs_of_nonneg hvalue, y.abs_signedUnits]
    _ ≤ |signedValue negative (d.value * unitsPerOne) - y.signedUnits| :=
        abs_abs_sub_abs_le _ _

end Double

end GuardedSearch
