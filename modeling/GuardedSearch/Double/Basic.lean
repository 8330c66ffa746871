/-!
# Doubles as exact numbers

A double is a number of 64-bit binary floating point. Every finite one is a whole multiple of
`2 ^ -1074`, so its magnitude is kept as that multiple, a natural number of *units*. Comparing,
adding and reading doubles is then arithmetic on whole numbers, with one rounding at the end.

## Main definitions

* `Representable`: which numbers of units are magnitudes of doubles.
* `Double`, `Double.Finite`: the type, with zeros of both signs, the infinities and one NaN.
* `Double.roundUnits`, `Double.ofRatio`: the nearest double to a ratio, ties to even.
* `Double.compare?`: the order, in which NaN stands beside nothing.

## Main results

* `representable_roundUnits`: rounding below the bound always ends in a magnitude of a double.
* `roundUnits_one`: rounding leaves the magnitude of a double alone.
-/

namespace GuardedSearch

/-- The binary places after the point of the finest double. -/
def unitPlaces : Nat := 1074

/-- The number of units in one. -/
def unitsPerOne : Nat := Nat.pow 2 unitPlaces

/-- The first number of units that is too large for a finite double. -/
def unitsBound : Nat := Nat.pow 2 2098

/-- The distance, in units, between a double of `u` units and its neighbour away from zero: a
magnitude has 53 significant bits, or fewer if its last bit is a unit. -/
def spacing (u : Nat) : Nat := Nat.pow 2 (u.log2 - 52)

/-- Whether a number of units is the magnitude of a finite double. -/
def Representable (u : Nat) : Prop :=
  u < unitsBound ∧ u % spacing u = 0

instance (u : Nat) : Decidable (Representable u) :=
  inferInstanceAs (Decidable (_ ∧ _))

/-- A finite double. -/
structure Double.Finite where
  negative : Bool
  units : Nat
  representable : Representable units
  deriving DecidableEq

/-- A double: a finite number, an infinity, or NaN. -/
inductive Double where
  | nan
  | infinite (negative : Bool)
  | finite (x : Double.Finite)
  deriving DecidableEq

theorem spacing_pos (u : Nat) : 0 < spacing u := Nat.two_pow_pos _

/-! ### Rounding -/

/-- The multiple of the spacing nearest to `num / den`; a tie goes to the even multiple. -/
def Double.roundUnits (num den : Nat) : Nat :=
  let step := spacing (num / den)
  let whole := num / (den * step)
  let rest := num % (den * step)
  if den * step < 2 * rest || (2 * rest == den * step && whole % 2 == 1) then (whole + 1) * step
  else whole * step

theorem unitsBound_pos : 0 < unitsBound := by
  unfold unitsBound
  generalize 2098 = n
  exact Nat.two_pow_pos n

theorem representable_zero : Representable 0 :=
  ⟨unitsBound_pos, by simp⟩

/-- A number of at most 53 significant bits is a multiple of its spacing. -/
theorem mul_spacing_mod {q k : Nat} (hq : q ≤ 0x20000000000000) :
    q * Nat.pow 2 k % spacing (q * Nat.pow 2 k) = 0 := by
  change q ≤ 2 ^ 53 at hq
  simp only [Nat.pow_eq]
  have dvd : ∀ j, j ≤ k → q * 2 ^ k % 2 ^ j = 0 := fun j hj =>
    Nat.mod_eq_zero_of_dvd (Nat.dvd_trans (Nat.pow_dvd_pow 2 hj) (Nat.dvd_mul_left _ _))
  by_cases h0 : q = 0
  · subst h0; simp
  by_cases hlt : q < 2 ^ 53
  · refine dvd _ ?_
    have hlog : (q * 2 ^ k).log2 < 53 + k := by
      refine (Nat.log2_lt (Nat.mul_ne_zero h0 (Nat.ne_of_gt (Nat.two_pow_pos k)))).mpr ?_
      rw [Nat.pow_add]
      exact Nat.mul_lt_mul_of_pos_right hlt (Nat.two_pow_pos k)
    omega
  · have hq : q = 2 ^ 53 := by omega
    subst hq
    rw [← Nat.pow_add, spacing, Nat.pow_eq, Nat.log2_two_pow]
    exact Nat.mod_eq_zero_of_dvd (Nat.pow_dvd_pow 2 (by omega))

private theorem whole_lt {num den : Nat} :
    num / (den * spacing (num / den)) < 0x20000000000000 := by
  rw [← Nat.div_div_eq_div_mul, spacing, Nat.pow_eq]
  generalize num / den = u
  by_cases hu : u = 0
  · subst hu; simp
  refine (Nat.div_lt_iff_lt_mul (Nat.two_pow_pos _)).mpr ?_
  have h := Nat.lt_log2_self (n := u)
  refine Nat.lt_of_lt_of_le h ?_
  change _ ≤ 2 ^ 53 * _
  rw [← Nat.pow_add]
  exact Nat.pow_le_pow_right (by decide) (by omega)

theorem Double.roundUnits_mod_spacing (num den : Nat) :
    roundUnits num den % spacing (roundUnits num den) = 0 := by
  have hw : num / (den * spacing (num / den)) < 0x20000000000000 := whole_lt
  unfold roundUnits
  simp only []
  split
  · exact mul_spacing_mod (by omega)
  · exact mul_spacing_mod (by omega)

/-- Rounding ends in the magnitude of a double, unless it ends beyond all of them. -/
theorem Double.representable_roundUnits {num den : Nat}
    (h : roundUnits num den < unitsBound) : Representable (roundUnits num den) :=
  ⟨h, roundUnits_mod_spacing num den⟩

/-- The magnitude of a double is its own rounding. -/
theorem Double.roundUnits_one {u : Nat} (h : Representable u) : roundUnits u 1 = u := by
  have hrest : u % (1 * spacing u) = 0 := by simpa using h.2
  have hpos : 0 < spacing u := spacing_pos u
  simp only [roundUnits, Nat.div_one, hrest]
  rw [if_neg]
  · have := Nat.div_add_mod u (1 * spacing u)
    rw [hrest] at this
    simp only [Nat.one_mul, Nat.add_zero] at this ⊢
    rw [Nat.mul_comm]; exact this
  · simp; omega

/-- Rounding depends on the ratio only. -/
theorem Double.roundUnits_mul_right {num den c : Nat} (hc : 0 < c) :
    roundUnits (num * c) (den * c) = roundUnits num den := by
  unfold roundUnits
  simp only [Nat.mul_div_mul_right _ _ hc]
  generalize spacing (num / den) = step
  have hden : den * c * step = den * step * c := by
    rw [Nat.mul_assoc, Nat.mul_comm c, Nat.mul_assoc]
  rw [hden, Nat.mul_div_mul_right _ _ hc, Nat.mul_mod_mul_right]
  have hrest : 2 * (num % (den * step) * c) = 2 * (num % (den * step)) * c := by
    rw [Nat.mul_assoc]
  rw [hrest]
  have hlt : den * step * c < 2 * (num % (den * step)) * c ↔
      den * step < 2 * (num % (den * step)) := Nat.mul_lt_mul_right hc
  have heq : 2 * (num % (den * step)) * c = den * step * c ↔
      2 * (num % (den * step)) = den * step := Nat.mul_left_inj (Nat.ne_of_gt hc)
  simp only [decide_eq_decide.mpr hlt, Bool.or_eq_true, Bool.and_eq_true, decide_eq_true_eq,
    beq_iff_eq, heq]

namespace Double

/-- The finite double of a sign and a magnitude, or the infinity of that sign if the magnitude is
too large. -/
def ofUnits (negative : Bool) (u : Nat) : Double :=
  if h : Representable u then finite ⟨negative, u, h⟩ else infinite negative

/-- The double nearest to `num / den` units, with the given sign. -/
def ofRatio (negative : Bool) (num den : Nat) : Double :=
  ofUnits negative (roundUnits num den)

/-- Zero, without a minus sign. -/
def zero : Double := finite ⟨false, 0, representable_zero⟩

/-- The double nearest to a whole number. -/
def ofInt (n : Int) : Double :=
  ofRatio (n < 0) (n.natAbs * unitsPerOne) 1

/-! ### Order -/

/-- A finite double as a whole number of units with a sign. -/
def Finite.signedUnits (x : Finite) : Int :=
  if x.negative then -(x.units : Int) else x.units

/-- The place of a double in the order of numbers; NaN has none, and both zeros have the same. -/
def place? : Double → Option Int
  | nan => none
  | infinite negative => some (if negative then -(unitsBound : Int) else unitsBound)
  | finite x => some x.signedUnits

/-- Compares two doubles as numbers. -/
def compare? (x y : Double) : Option Ordering :=
  match x.place?, y.place? with
  | some a, some b => some (compare a b)
  | _, _ => none

/-- Whether the double is a finite number. -/
def isFinite : Double → Bool
  | finite _ => true
  | _ => false

/-- The whole number that a double is exactly, if it is one. -/
def whole? : Double → Option Int
  | finite x => if x.units % unitsPerOne = 0 then some (x.signedUnits / unitsPerOne) else none
  | _ => none

end Double

end GuardedSearch
