import GuardedSearch.Double.Decimal

/-!
# The shortest decimal of a double

Of the decimals that read back to a magnitude, `Double.shortest` takes one with the fewest digits,
and of those the nearest. For 1, 2, … digits it tries the two neighbours of the magnitude on the
grid of decimals with that many digits. Seventeen digits always suffice; the exact decimal that
stands behind the search makes it total without that fact.

## Main results

* `units_shortest`: the decimal found reads back to the magnitude.
-/

namespace GuardedSearch

namespace Double

/-- What becomes of a value half-way between two decimals that both read back. -/
inductive Tie where
  | toEven
  | away
  deriving DecidableEq, Repr

/-- The value of `u` units on the grid of multiples of `10 ^ exponent`, as a ratio. -/
def onGrid (u : Nat) (exponent : Int) : Nat × Nat :=
  if 0 ≤ exponent then (u, unitsPerOne * Nat.pow 10 exponent.toNat)
  else (u * Nat.pow 10 (-exponent).toNat, unitsPerOne)

/-- A point of a grid as a decimal; ten steps of one grid are one step of the next. -/
def gridPoint (n : Nat) (exponent : Int) : Decimal :=
  if n = 10 then ⟨1, exponent + 1⟩ else ⟨n, exponent⟩

/-- The decimals of one grid on both sides of a magnitude, the one to prefer first. -/
def neighbours (tie : Tie) (u : Nat) (exponent : Int) : List Decimal :=
  let (num, den) := onGrid u exponent
  let low := num / den
  let rest := num % den
  if 2 * rest < den ∨ (2 * rest = den ∧ tie = .toEven ∧ low % 2 = 0) then
    [gridPoint low exponent, gridPoint (low + 1) exponent]
  else
    [gridPoint (low + 1) exponent, gridPoint low exponent]

/-- The power of ten of the leading digit of `u` units. -/
def leadingExponent (u : Nat) : Int :=
  (Decimal.width (u * Nat.pow 10 330 / unitsPerOne) : Int) - 331

/-- The magnitude written out exactly. -/
def exactDecimal (u : Nat) : Decimal :=
  ⟨u * Nat.pow 5 unitPlaces, -unitPlaces⟩

/-- The decimals tried for a magnitude, in order of preference. -/
def candidates (tie : Tie) (u : Nat) : List Decimal :=
  (List.range 17).flatMap fun (k : Nat) => neighbours tie u (leadingExponent u - k)

/-- The shortest decimal that reads back to a magnitude. -/
def shortest (tie : Tie) (u : Nat) : Decimal :=
  ((candidates tie u).find? (·.units == u)).getD (exactDecimal u)

private theorem pow_ten (k : Nat) : Nat.pow 10 k = 1 * (Nat.pow 5 k * Nat.pow 2 k) := by
  simp only [Nat.one_mul, Nat.pow_eq, ← Nat.mul_pow]

private theorem pow_five_mul_pow_two_pos (k : Nat) : 0 < Nat.pow 5 k * Nat.pow 2 k :=
  Nat.mul_pos (Nat.pow_pos (by decide)) (Nat.pow_pos (by decide))

theorem units_exactDecimal {u : Nat} (h : Representable u) : (exactDecimal u).units = u := by
  have hpos : 0 < Nat.pow 5 unitPlaces * unitsPerOne := by
    unfold unitsPerOne
    generalize unitPlaces = k
    exact pow_five_mul_pow_two_pos k
  have hten : Nat.pow 10 unitPlaces = 1 * (Nat.pow 5 unitPlaces * unitsPerOne) := by
    unfold unitsPerOne
    generalize unitPlaces = k
    exact pow_ten k
  have hplaces : 0 < unitPlaces := by decide
  have hneg : ¬ (0 : Int) ≤ (exactDecimal u).exponent := by
    show ¬ (0 : Int) ≤ -(unitPlaces : Int)
    omega
  rw [Decimal.units, if_neg hneg]
  simp only [exactDecimal, Int.neg_neg, Int.toNat_natCast]
  rw [hten, Nat.mul_assoc, roundUnits_mul_right hpos, roundUnits_one h]

/-- The decimal found reads back to the magnitude. -/
theorem units_shortest (tie : Tie) {u : Nat} (h : Representable u) :
    (shortest tie u).units = u := by
  unfold shortest
  cases hf : (candidates tie u).find? (·.units == u) with
  | none => simpa using units_exactDecimal h
  | some d => simpa using List.find?_some hf

end Double

end GuardedSearch
