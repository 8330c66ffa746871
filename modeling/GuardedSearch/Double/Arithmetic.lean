import GuardedSearch.Double.Basic

/-!
# Arithmetic of doubles

Sums, products and quotients are formed exactly and rounded once. `Double.least` and
`Double.greatest` pass over NaN.
-/

namespace GuardedSearch.Double

/-- Whether the double carries a minus sign; NaN carries none. -/
def isNegative : Double → Bool
  | nan => false
  | infinite negative => negative
  | finite x => x.negative

/-- The double of a whole number of units with a sign; `signOfZero` decides between the zeros. -/
def ofSignedUnits (signOfZero : Bool) (n : Int) : Double :=
  if n = 0 then ofRatio signOfZero 0 1 else ofRatio (n < 0) n.natAbs 1

/-- The sum. A sum of zero is negative only if both summands are. -/
def add : Double → Double → Double
  | nan, _ | _, nan => nan
  | infinite a, infinite b => if a = b then infinite a else nan
  | infinite a, finite _ | finite _, infinite a => infinite a
  | finite x, finite y => ofSignedUnits (x.negative && y.negative) (x.signedUnits + y.signedUnits)

/-- The product. -/
def mul : Double → Double → Double
  | nan, _ | _, nan => nan
  | infinite a, infinite b => infinite (a != b)
  | infinite a, finite x | finite x, infinite a =>
    if x.units = 0 then nan else infinite (a != x.negative)
  | finite x, finite y => ofRatio (x.negative != y.negative) (x.units * y.units) unitsPerOne

/-- The quotient. -/
def div : Double → Double → Double
  | nan, _ | _, nan => nan
  | infinite _, infinite _ => nan
  | infinite a, finite y => infinite (a != y.negative)
  | finite x, infinite b => ofRatio (x.negative != b) 0 1
  | finite x, finite y =>
    if y.units = 0 then if x.units = 0 then nan else infinite (x.negative != y.negative)
    else ofRatio (x.negative != y.negative) (x.units * unitsPerOne) y.units

/-- The lesser of the least value so far and a new one; the new one if they are equal. -/
def least (soFar new : Double) : Double :=
  match soFar.compare? new with
  | some .lt => soFar
  | some _ => new
  | none => if new = nan then soFar else new

/-- The greater of the greatest value so far and a new one; the new one if they are equal. -/
def greatest (soFar new : Double) : Double :=
  match soFar.compare? new with
  | some .gt => soFar
  | some _ => new
  | none => if new = nan then soFar else new

theorem compare?_nan (x : Double) : x.compare? nan = none := by
  unfold compare?
  cases x.place? <;> rfl

@[simp] theorem least_nan (x : Double) : least x nan = x := by
  simp [least, compare?_nan]

@[simp] theorem greatest_nan (x : Double) : greatest x nan = x := by
  simp [greatest, compare?_nan]

end GuardedSearch.Double
