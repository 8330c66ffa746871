import GuardedSearch.Proofs.Double.Rounding

/-!
# The places of doubles

Doubles are compared by their places among the numbers, so a statement about comparing is one about
places. A magnitude that has been rounded gives a place whatever its size: from the bound on it is
the place of an infinity, which lies at the bound.

Whole numbers of 64 bits are compared as doubles, and most of them are none. What is left of their
order is that rounding never turns it round. Two of them may come to share a place, but not if one
of them is small enough that its neighbours on both sides are doubles.

## Main definitions

* `Double.intPlace` — the place of the double that a whole number is rounded to

## Main results

* `Double.place?_ofUnits` — the place of a rounded magnitude
* `Double.intPlace_mono`, `Double.intPlace_lt` — the order of whole numbers that rounding keeps
* `Double.compare?_ofInt` — whole numbers are compared by these places
* `Double.ofInt_eq_iff` — whole numbers with the same place are the same double
-/

namespace GuardedSearch

namespace Double

/-- A magnitude with a sign. -/
def signed (negative : Bool) (u : Nat) : Int :=
  if negative then -(u : Int) else u

/-- A whole number has the sign and the magnitude that it has. -/
theorem signed_natAbs (n : Int) : signed (n < 0) n.natAbs = n := by
  simp only [signed, decide_eq_true_eq]
  split <;> omega

theorem signed_mul (negative : Bool) (u v : Nat) :
    signed negative (u * v) = signed negative u * v := by
  rw [signed, signed]
  split <;> simp

theorem Finite.natAbs_signedUnits (x : Finite) : x.signedUnits.natAbs = x.units := by
  rw [signedUnits]
  split <;> simp

/-! ### Rounded magnitudes -/

theorem ofUnits_of_lt {u : Nat} (hu : OnGrid u) (hlt : u < unitsBound) (negative : Bool) :
    ofUnits negative u = finite ⟨negative, u, hlt, hu⟩ :=
  dif_pos ⟨hlt, hu⟩

theorem ofUnits_of_le {u : Nat} (hle : unitsBound ≤ u) (negative : Bool) :
    ofUnits negative u = infinite negative :=
  dif_neg fun h => Nat.not_lt_of_le hle h.1

theorem place?_ofUnits {u : Nat} (hu : OnGrid u) (negative : Bool) :
    (ofUnits negative u).place? = some (signed negative (min u unitsBound)) := by
  rcases Nat.lt_or_ge u unitsBound with hlt | hge
  · rw [ofUnits_of_lt hu hlt, Nat.min_eq_left hlt.le]
    rfl
  · rw [ofUnits_of_le hge, Nat.min_eq_right hge]
    rfl

/-- Beyond the bound all magnitudes are the same. -/
theorem ofUnits_congr {u v : Nat} (h : min u unitsBound = min v unitsBound) (negative : Bool) :
    ofUnits negative u = ofUnits negative v := by
  rcases Nat.lt_or_ge u unitsBound with hu | hu
  · obtain rfl : u = v := by omega
    rfl
  · rw [ofUnits_of_le hu, ofUnits_of_le (by omega)]

/-- Within the bound there are only finite doubles. -/
theorem exists_finite_of_place? {x : Double} {p : Int} (h : x.place? = some p)
    (hlt : p.natAbs < unitsBound) : ∃ f : Finite, x = finite f ∧ f.signedUnits = p := by
  cases x with
  | nan => cases h
  | infinite negative =>
    have hp : (if negative then -(unitsBound : Int) else unitsBound) = p := Option.some.inj h
    split at hp <;> omega
  | finite f => exact ⟨f, rfl, Option.some.inj h⟩

theorem isSome_place?_of_isFinite {x : Double} (h : x.isFinite = true) : x.place?.isSome := by
  cases x with
  | nan => cases h
  | infinite negative => rfl
  | finite f => rfl

theorem compare?_of_place? {x y : Double} {a b : Int} (hx : x.place? = some a)
    (hy : y.place? = some b) : x.compare? y = some (compare a b) := by
  rw [compare?, hx, hy]

/-- A double that is not above another one is below all that the other one is below. -/
theorem compare?_eq_lt_of_place_le {x y z : Double} {a b : Int} (hx : x.place? = some a)
    (hy : y.place? = some b) (hle : a ≤ b) (hlt : y.compare? z = some .lt) :
    x.compare? z = some .lt := by
  cases hz : z.place? with
  | none =>
    rw [compare?, hy, hz] at hlt
    cases hlt
  | some c =>
    rw [compare?_of_place? hy hz, Option.some_inj, compare_lt_iff_lt] at hlt
    rw [compare?_of_place? hx hz, compare_lt_iff_lt.mpr (hle.trans_lt hlt)]

/-- A double with a place lies at this place. -/
theorem compare?_self {x : Double} (h : x.place?.isSome) : x.compare? x = some .eq := by
  obtain ⟨p, hp⟩ := Option.isSome_iff_exists.mp h
  rw [compare?_of_place? hp hp, compare_eq_iff_eq.mpr rfl]

/-! ### Whole numbers -/

/-- The magnitude that a whole number is rounded to. -/
def natPlace (n : Nat) : Nat :=
  min (roundUnits (n * unitsPerOne) 1) unitsBound

/-- The place of the double that a whole number is rounded to. -/
def intPlace (n : Int) : Int :=
  signed (n < 0) (natPlace n.natAbs)

theorem natPlace_mono {m n : Nat} (h : m ≤ n) : natPlace m ≤ natPlace n := by
  have hround : roundUnits (m * unitsPerOne) 1 ≤ roundUnits (n * unitsPerOne) 1 :=
    roundUnits_mono_left Nat.one_pos (Nat.mul_le_mul_right _ h)
  rw [natPlace, natPlace]
  omega

/-- A whole number that is a double stays in its place. -/
theorem natPlace_of_onGrid {n : Nat} (h : OnGrid (n * unitsPerOne))
    (hle : n * unitsPerOne ≤ unitsBound) : natPlace n = n * unitsPerOne := by
  have hround := roundUnits_of_onGrid h Nat.one_pos
  rw [Nat.mul_one] at hround
  rw [natPlace, hround, Nat.min_eq_left hle]

theorem natPlace_of_le {n : Nat} (h : n ≤ 2 ^ 53) : natPlace n = n * unitsPerOne :=
  natPlace_of_onGrid (onGrid_mul_unitsPerOne h)
    ((Nat.mul_le_mul_right _ h).trans (mul_unitsPerOne_le (by decide)))

theorem natPlace_two_pow {k : Nat} (h : k + unitPlaces ≤ 2098) :
    natPlace (2 ^ k) = 2 ^ k * unitsPerOne :=
  natPlace_of_onGrid (onGrid_two_pow_mul_unitsPerOne k) (mul_unitsPerOne_le h)

theorem unitsPerOne_dvd_natPlace (n : Nat) : unitsPerOne ∣ natPlace n := by
  have hbound : unitsPerOne ∣ unitsBound := by
    have hle : unitPlaces ≤ 2098 := by decide
    unfold unitsPerOne unitsBound
    generalize unitPlaces = places, 2098 = bound at hle ⊢
    exact Nat.pow_dvd_pow 2 hle
  rcases min_choice (roundUnits (n * unitsPerOne) 1) unitsBound with h | h
  · rw [natPlace, h]
    exact unitsPerOne_dvd_roundUnits n
  · rw [natPlace, h]
    exact hbound

theorem natPlace_pos {n : Nat} (h : 0 < n) : 0 < natPlace n := by
  have hone : natPlace 1 = unitsPerOne := by rw [natPlace_of_le (by decide), Nat.one_mul]
  have hpos : 0 < unitsPerOne := unitsPerOne_pos
  have hmono : natPlace 1 ≤ natPlace n := natPlace_mono h
  omega

theorem place?_ofInt (n : Int) : (ofInt n).place? = some (intPlace n) := by
  rw [ofInt, ofRatio, place?_ofUnits (onGrid_roundUnits _ _), intPlace, natPlace]

theorem compare?_ofInt (m n : Int) :
    (ofInt m).compare? (ofInt n) = some (compare (intPlace m) (intPlace n)) :=
  compare?_of_place? (place?_ofInt m) (place?_ofInt n)

/-- **Rounding never turns the order of whole numbers round.** -/
theorem intPlace_mono {m n : Int} (h : m ≤ n) : intPlace m ≤ intPlace n := by
  simp only [intPlace, signed, decide_eq_true_eq]
  split
  case isTrue hm =>
    split
    case isTrue hn =>
      have hmono : natPlace n.natAbs ≤ natPlace m.natAbs := natPlace_mono (by omega)
      omega
    case isFalse hn => omega
  case isFalse hm =>
    have hmono : natPlace m.natAbs ≤ natPlace n.natAbs := natPlace_mono (by omega)
    rw [if_neg (by omega)]
    omega

theorem intPlace_of_natPlace {n : Int} (h : natPlace n.natAbs = n.natAbs * unitsPerOne) :
    intPlace n = n * unitsPerOne := by
  rw [intPlace, h, signed_mul, signed_natAbs]

/-- A whole number of at most 53 bits is a double. -/
theorem intPlace_of_le {n : Int} (h : n.natAbs ≤ 2 ^ 53) : intPlace n = n * unitsPerOne :=
  intPlace_of_natPlace (natPlace_of_le h)

theorem intPlace_two_pow {k : Nat} (h : k + unitPlaces ≤ 2098) :
    intPlace (2 ^ k) = 2 ^ k * unitsPerOne ∧ intPlace (-2 ^ k) = -2 ^ k * unitsPerOne := by
  have habs : (2 ^ k : Int).natAbs = 2 ^ k := Int.natAbs_pow 2 k
  constructor
  · exact intPlace_of_natPlace (by rw [habs, natPlace_two_pow h])
  · exact intPlace_of_natPlace (by rw [Int.natAbs_neg, habs, natPlace_two_pow h])

/-- A whole number is rounded to a whole number. -/
theorem unitsPerOne_dvd_intPlace (n : Int) : (unitsPerOne : Int) ∣ intPlace n := by
  have hdvd : (unitsPerOne : Int) ∣ natPlace n.natAbs :=
    Int.natCast_dvd_natCast.mpr (unitsPerOne_dvd_natPlace _)
  rw [intPlace, signed]
  split
  · exact Int.dvd_neg.mpr hdvd
  · exact hdvd

/-- **Rounding keeps whole numbers apart if one of them is small.** Its neighbours are then doubles
as well as itself. -/
theorem intPlace_lt {m n : Int} (h : m < n) (hsmall : m.natAbs < 2 ^ 53 ∨ n.natAbs < 2 ^ 53) :
    intPlace m < intPlace n := by
  have hpos : (0 : Int) < unitsPerOne := Int.natCast_pos.mpr unitsPerOne_pos
  rcases hsmall with hm | hn
  · have hnext : intPlace (m + 1) ≤ intPlace n := intPlace_mono (by omega)
    rw [intPlace_of_le (n := m + 1) (by omega), Int.add_mul, Int.one_mul] at hnext
    rw [intPlace_of_le (n := m) (by omega)]
    omega
  · have hlast : intPlace m ≤ intPlace (n - 1) := intPlace_mono (by omega)
    rw [intPlace_of_le (n := n - 1) (by omega), Int.sub_mul, Int.one_mul] at hlast
    rw [intPlace_of_le (n := n) (by omega)]
    omega

/-- Whole numbers with the same place are the same double. -/
theorem ofInt_eq_iff {m n : Int} : ofInt m = ofInt n ↔ intPlace m = intPlace n := by
  constructor
  · intro h
    have hplace := (place?_ofInt m).symm.trans ((congrArg place? h).trans (place?_ofInt n))
    exact Option.some.inj hplace
  · intro h
    -- a double below zero and one above cannot share a place, as no whole number is rounded to zero
    have hm : m ≠ 0 → 0 < natPlace m.natAbs := fun hm => natPlace_pos (by omega)
    have hn : n ≠ 0 → 0 < natPlace n.natAbs := fun hn => natPlace_pos (by omega)
    have hsame : decide (m < 0) = decide (n < 0) ∧ natPlace m.natAbs = natPlace n.natAbs := by
      rw [decide_eq_decide]
      simp only [intPlace, signed, decide_eq_true_eq] at h
      split at h <;> split at h <;> omega
    rw [ofInt, ofInt, ofRatio, ofRatio, hsame.1]
    exact ofUnits_congr hsame.2 _

end Double

end GuardedSearch
