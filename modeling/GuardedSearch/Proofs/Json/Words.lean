import GuardedSearch.Json.Basic
import Mathlib.Algebra.Group.Nat.Defs

/-!
# Numbers of 64 bits

A whole number in JSON fits 64 bits, with a sign or without; a text that writes a larger one writes
a double. The type of numbers does not say so, and most of what is done with values does not ask.
It matters where a whole number is taken for a double, which has to be a finite one then.

## Main definitions

* `Json.Fits` — all numbers in a value fit 64 bits

## Main results

* `Json.Number.isFinite_toDouble` — such a number is a finite double
-/

namespace GuardedSearch

/-! ### Rounding -/

theorem spacing_le (u : Nat) : spacing u ≤ u + 1 := by
  rw [spacing, Nat.pow_eq]
  by_cases hu : u = 0
  · subst hu
    decide
  · calc 2 ^ (u.log2 - 52)
        ≤ 2 ^ u.log2 := Nat.pow_le_pow_right (by decide) (Nat.sub_le _ _)
      _ ≤ u := Nat.log2_self_le hu
      _ ≤ u + 1 := Nat.le_succ u

/-- Rounding goes up by one spacing at most. -/
theorem Double.roundUnits_le (u : Nat) : roundUnits u 1 ≤ u + spacing u := by
  have hwhole : u / spacing u * spacing u ≤ u := Nat.div_mul_le_self u (spacing u)
  simp only [roundUnits, Nat.div_one, Nat.one_mul]
  split
  · rw [Nat.succ_mul]
    omega
  · omega

theorem unitsPerOne_pos : 0 < unitsPerOne := by
  unfold unitsPerOne
  generalize unitPlaces = places
  exact Nat.two_pow_pos places

theorem mul_unitsPerOne_le {k : Nat} (h : k + unitPlaces ≤ 2098) :
    2 ^ k * unitsPerOne ≤ unitsBound := by
  unfold unitsPerOne unitsBound
  generalize unitPlaces = places, 2098 = bound at h ⊢
  calc 2 ^ k * 2 ^ places
      = 2 ^ (k + places) := (Nat.pow_add 2 k places).symm
    _ ≤ 2 ^ bound := Nat.pow_le_pow_right (by decide) h

/-- Numbers far below the bound are not rounded beyond it. -/
theorem Double.isFinite_ofInt {n : Int} (h : n.natAbs ≤ 2 ^ 64) : (ofInt n).isFinite = true := by
  have hunits : n.natAbs * unitsPerOne ≤ 2 ^ 64 * unitsPerOne := Nat.mul_le_mul_right _ h
  have hone : 0 < unitsPerOne := unitsPerOne_pos
  have hround := roundUnits_le (n.natAbs * unitsPerOne)
  have hspacing := spacing_le (n.natAbs * unitsPerOne)
  have hbound : 2 ^ 66 * unitsPerOne ≤ unitsBound := mul_unitsPerOne_le (by decide)
  have hlt : roundUnits (n.natAbs * unitsPerOne) 1 < unitsBound := by omega
  rw [ofInt, ofRatio, ofUnits, dif_pos (representable_roundUnits hlt)]
  rfl

/-! ### Numbers and values -/

namespace Json

/-- A whole number that fits 64 bits with a sign or without, or a double. -/
def Number.Fits : Number → Prop
  | whole n => Text.int64Least ≤ n ∧ n ≤ Text.uint64Greatest
  | double _ => True

/-- All numbers in the value fit 64 bits. -/
inductive Fits : Json → Prop
  | null : Fits null
  | bool (b : Bool) : Fits (bool b)
  | number {n : Number} : n.Fits → Fits (number n)
  | string (s : String) : Fits (string s)
  | array {items : List Json} : (∀ v ∈ items, Fits v) → Fits (array items)
  | object {members : List (String × Json)} : (∀ m ∈ members, Fits m.2) → Fits (object members)

theorem Number.isFinite_toDouble {n : Number} (h : n.Fits) : n.toDouble.isFinite = true := by
  cases n with
  | double x => rfl
  | whole n =>
    obtain ⟨hleast, hgreatest⟩ := h
    refine Double.isFinite_ofInt ?_
    rw [Text.int64Least] at hleast
    rw [Text.uint64Greatest] at hgreatest
    omega

end Json

end GuardedSearch
