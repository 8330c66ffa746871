import GuardedSearch.Proofs.Json.Words
import Mathlib.Tactic.ByContra
import Mathlib.Tactic.Ring

/-!
# Rounding to doubles

The magnitudes of doubles, and those beyond the greatest one that only their size keeps from being
doubles, form a grid. Its points lie the closer to each other the smaller they are, and between a
number and the neighbours that `Double.roundUnits` chooses from lies no point of the grid. So what
it chooses is nearest of all points, and that alone makes rounding monotone: whoever is passed in
rounding has a nearer point to go to.

Nothing here asks for a number to be small enough for a double. The bound comes in last, where a
magnitude becomes a double.

## Main definitions

* `OnGrid` — the number of units is a multiple of the spacing that doubles of its size have

## Main results

* `OnGrid.le_or_le` — no point of the grid lies between two neighbours
* `Double.roundUnits_nearest` — no point of the grid is nearer than the one rounded to
* `Double.roundUnits_mono` — rounding keeps the order of ratios
* `Double.unitsPerOne_dvd_roundUnits` — a whole number is rounded to a whole number
-/

namespace GuardedSearch

/-- The number of units is the magnitude of a double, or would be if it were not too large. -/
def OnGrid (u : Nat) : Prop :=
  u % spacing u = 0

/-! ### The grid -/

theorem log2_le_log2 {u v : Nat} (h : u ≤ v) : u.log2 ≤ v.log2 := by
  by_cases hu : u = 0
  · subst hu
    exact Nat.zero_le _
  · exact (Nat.le_log2 (by omega)).mpr ((Nat.log2_self_le hu).trans h)

theorem spacing_dvd_spacing {u v : Nat} (h : u ≤ v) : spacing u ∣ spacing v :=
  Nat.pow_dvd_pow 2 (Nat.sub_le_sub_right (log2_le_log2 h) 52)

theorem OnGrid.spacing_dvd {u v : Nat} (hv : OnGrid v) (h : u ≤ v) : spacing u ∣ v :=
  (spacing_dvd_spacing h).trans (Nat.dvd_of_mod_eq_zero hv)

theorem onGrid_mul_two_pow {q : Nat} (hq : q ≤ 2 ^ 53) (k : Nat) : OnGrid (q * 2 ^ k) :=
  mul_spacing_mod hq

theorem onGrid_two_pow (k : Nat) : OnGrid (2 ^ k) := by
  simpa using onGrid_mul_two_pow (q := 1) (by decide) k

/-- The greatest multiple of its spacing that a number does not lie below. -/
def gridFloor (u : Nat) : Nat :=
  u / spacing u * spacing u

theorem gridFloor_le (u : Nat) : gridFloor u ≤ u :=
  Nat.div_mul_le_self u (spacing u)

theorem lt_gridFloor_add (u : Nat) : u < gridFloor u + spacing u := by
  rw [gridFloor, ← Nat.succ_mul]
  exact Nat.lt_mul_of_div_lt (Nat.lt_succ_self _) (spacing_pos u)

/-- Going down to the grid does not lead to where the grid is finer. -/
theorem spacing_gridFloor (u : Nat) : spacing (gridFloor u) = spacing u := by
  by_cases hsmall : u.log2 ≤ 52
  · have hone : spacing u = 1 := by rw [spacing, Nat.sub_eq_zero_of_le hsmall, Nat.pow_eq, pow_zero]
    rw [gridFloor, hone, Nat.div_one, Nat.mul_one, hone]
  · have hu : u ≠ 0 := by
      rintro rfl
      exact hsmall (by decide)
    have hpow : 2 ^ u.log2 ≤ gridFloor u := by
      have hdvd : spacing u ∣ 2 ^ u.log2 := Nat.pow_dvd_pow 2 (Nat.sub_le _ _)
      obtain ⟨k, hk⟩ := hdvd
      have hle : spacing u * k ≤ u := hk ▸ Nat.log2_self_le hu
      rw [gridFloor, hk, Nat.mul_comm]
      exact Nat.mul_le_mul_right _ ((Nat.le_div_iff_mul_le (spacing_pos u)).mpr
        (by rwa [Nat.mul_comm] at hle))
    have hlog : (gridFloor u).log2 = u.log2 :=
      le_antisymm (log2_le_log2 (gridFloor_le u))
        ((Nat.le_log2 (by have := Nat.two_pow_pos u.log2; omega)).mpr hpow)
    rw [spacing, hlog, spacing]

/-- **No point of the grid lies between two neighbours.** -/
theorem OnGrid.le_or_le {v : Nat} (hv : OnGrid v) (u : Nat) :
    v ≤ gridFloor u ∨ gridFloor u + spacing u ≤ v := by
  rcases Nat.lt_or_ge (gridFloor u) v with hlt | hge
  · right
    have hdvd : spacing u ∣ v := spacing_gridFloor u ▸ hv.spacing_dvd (Nat.le_of_lt hlt)
    obtain ⟨k, rfl⟩ := hdvd
    rw [gridFloor, Nat.mul_comm (spacing u) k] at hlt ⊢
    rw [← Nat.succ_mul]
    exact Nat.mul_le_mul_right _ (Nat.lt_of_mul_lt_mul_right hlt)
  · exact .inl hge

namespace Double

/-! ### The nearest point -/

theorem onGrid_roundUnits (num den : Nat) : OnGrid (roundUnits num den) :=
  roundUnits_mod_spacing num den

/-- Rounding goes to the neighbour that is not farther away. -/
theorem roundUnits_cases (num den : Nat) :
    (roundUnits num den = gridFloor (num / den) ∧
        2 * num ≤ (2 * gridFloor (num / den) + spacing (num / den)) * den) ∨
      (roundUnits num den = gridFloor (num / den) + spacing (num / den) ∧
        (2 * gridFloor (num / den) + spacing (num / den)) * den ≤ 2 * num) := by
  have hwhole : num / (den * spacing (num / den)) = num / den / spacing (num / den) :=
    (Nat.div_div_eq_div_mul num den (spacing (num / den))).symm
  have hsplit := Nat.div_add_mod num (den * spacing (num / den))
  rw [hwhole] at hsplit
  have hsum : (2 * gridFloor (num / den) + spacing (num / den)) * den =
      2 * (den * spacing (num / den) * (num / den / spacing (num / den))) +
        den * spacing (num / den) := by
    rw [gridFloor]
    ring
  rw [roundUnits, hsum]
  simp only [hwhole]
  generalize num % (den * spacing (num / den)) = rest at hsplit ⊢
  generalize den * spacing (num / den) * (num / den / spacing (num / den)) = low at hsplit ⊢
  split
  case isTrue h =>
    refine .inr ⟨by rw [gridFloor, Nat.succ_mul], ?_⟩
    simp only [Bool.or_eq_true, Bool.and_eq_true, decide_eq_true_eq, beq_iff_eq] at h
    omega
  case isFalse h =>
    refine .inl ⟨rfl, ?_⟩
    simp only [Bool.or_eq_true, Bool.and_eq_true, decide_eq_true_eq, beq_iff_eq] at h
    omega

/-- **Rounding goes to a nearest point of the grid.** -/
theorem roundUnits_nearest (num : Nat) {den v : Nat} (hden : 0 < den) (hv : OnGrid v) :
    ((num : Int) - (roundUnits num den * den : Nat)).natAbs ≤
      ((num : Int) - (v * den : Nat)).natAbs := by
  have hlow : gridFloor (num / den) * den ≤ num :=
    (Nat.mul_le_mul_right den (gridFloor_le _)).trans (Nat.div_mul_le_self num den)
  have hhigh : num ≤ (gridFloor (num / den) + spacing (num / den)) * den :=
    Nat.le_of_lt (Nat.lt_mul_of_div_lt (lt_gridFloor_add _) hden)
  have hside : v * den ≤ gridFloor (num / den) * den ∨
      (gridFloor (num / den) + spacing (num / den)) * den ≤ v * den :=
    (hv.le_or_le (num / den)).imp (Nat.mul_le_mul_right den) (Nat.mul_le_mul_right den)
  have hcases := roundUnits_cases num den
  simp only [Nat.add_mul, Nat.mul_assoc] at hhigh hside hcases ⊢
  rcases hcases with ⟨hround, hhalf⟩ | ⟨hround, hhalf⟩
  · rw [hround]
    omega
  · rw [hround, Nat.add_mul]
    omega

/-- A point of the grid is rounded to itself. -/
theorem roundUnits_of_onGrid {v : Nat} (hv : OnGrid v) {den : Nat} (hden : 0 < den) :
    roundUnits (v * den) den = v := by
  have hnear := roundUnits_nearest (v * den) hden hv
  exact Nat.eq_of_mul_eq_mul_right hden (by omega)

/-! ### Order -/

theorem roundUnits_mono_left {num num' den : Nat} (hden : 0 < den) (h : num ≤ num') :
    roundUnits num den ≤ roundUnits num' den := by
  rcases Nat.eq_or_lt_of_le h with rfl | hlt
  · exact le_rfl
  · by_contra hpassed
    have hless : roundUnits num' den * den < roundUnits num den * den :=
      Nat.mul_lt_mul_of_pos_right (Nat.lt_of_not_le hpassed) hden
    have hnear := roundUnits_nearest num hden (onGrid_roundUnits num' den)
    have hnear' := roundUnits_nearest num' hden (onGrid_roundUnits num den)
    omega

/-- **Rounding keeps the order.** -/
theorem roundUnits_mono {num den num' den' : Nat} (hden : 0 < den) (hden' : 0 < den')
    (h : num * den' ≤ num' * den) : roundUnits num den ≤ roundUnits num' den' := by
  have hleft : roundUnits (num * den') (den * den') = roundUnits num den :=
    roundUnits_mul_right hden'
  have hright : roundUnits (num' * den) (den' * den) = roundUnits num' den' :=
    roundUnits_mul_right hden
  rw [← hleft, ← hright, Nat.mul_comm den' den]
  exact roundUnits_mono_left (Nat.mul_pos hden hden') h

theorem roundUnits_congr {num den num' den' : Nat} (hden : 0 < den) (hden' : 0 < den')
    (h : num * den' = num' * den) : roundUnits num den = roundUnits num' den' :=
  le_antisymm (roundUnits_mono hden hden' h.le) (roundUnits_mono hden' hden h.ge)

/-- What lies above a point of the grid is not rounded beyond it. -/
theorem le_roundUnits_of_onGrid {num den v : Nat} (hden : 0 < den) (hv : OnGrid v)
    (h : v * den ≤ num) : v ≤ roundUnits num den :=
  (roundUnits_of_onGrid hv hden).symm.trans_le (roundUnits_mono_left hden h)

/-! ### Whole numbers -/

theorem onGrid_mul_unitsPerOne {n : Nat} (h : n ≤ 2 ^ 53) : OnGrid (n * unitsPerOne) := by
  unfold unitsPerOne
  generalize unitPlaces = places
  exact onGrid_mul_two_pow h places

theorem onGrid_two_pow_mul_unitsPerOne (k : Nat) : OnGrid (2 ^ k * unitsPerOne) := by
  have hpow : 2 ^ k * unitsPerOne = 2 ^ (k + unitPlaces) := by
    unfold unitsPerOne
    generalize unitPlaces = places
    exact (Nat.pow_add 2 k places).symm
  rw [hpow]
  exact onGrid_two_pow _

/-- **A whole number is rounded to a whole number.** Where doubles are farther apart than one, all
of them are whole; and where they are not, every whole number is one of them. -/
theorem unitsPerOne_dvd_roundUnits (n : Nat) :
    unitsPerOne ∣ roundUnits (n * unitsPerOne) 1 := by
  rcases Nat.le_total n (2 ^ 53) with hsmall | hlarge
  · have hround := roundUnits_of_onGrid (onGrid_mul_unitsPerOne hsmall) Nat.one_pos
    rw [Nat.mul_one] at hround
    rw [hround]
    exact Nat.dvd_mul_left _ _
  · have hle : 2 ^ 53 * unitsPerOne ≤ roundUnits (n * unitsPerOne) 1 := by
      refine le_roundUnits_of_onGrid Nat.one_pos (onGrid_two_pow_mul_unitsPerOne 53) ?_
      rw [Nat.mul_one]
      exact Nat.mul_le_mul_right _ hlarge
    have hspacing : spacing (2 ^ 53 * unitsPerOne) = 2 * unitsPerOne := by
      unfold unitsPerOne spacing
      generalize unitPlaces = places
      rw [Nat.pow_eq, Nat.pow_eq, ← Nat.pow_add, Nat.log2_two_pow, ← Nat.pow_succ']
      congr 1
      omega
    have hdvd := (onGrid_roundUnits (n * unitsPerOne) 1).spacing_dvd hle
    rw [hspacing] at hdvd
    exact (Nat.dvd_mul_left _ _).trans hdvd

end Double

end GuardedSearch
