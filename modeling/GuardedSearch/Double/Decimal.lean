import GuardedSearch.Double.Basic
import GuardedSearch.Text.Numeral

/-!
# Reading decimals

A decimal is a whole number of digits and a power of ten. Reading one gives the nearest double.
The two guards on the size keep the arithmetic small for exponents of any length: from `10 ^ 310`
on a decimal is beyond every finite double, and below `10 ^ -330` it rounds to zero.
-/

namespace GuardedSearch

/-- The number `digits * 10 ^ exponent`. -/
structure Decimal where
  digits : Nat
  exponent : Int
  deriving DecidableEq, Repr

namespace Decimal

/-- The number of decimal digits of a natural number. -/
def width (n : Nat) : Nat :=
  (Nat.toDigits 10 n).length

/-- The power of ten just above the decimal's leading digit. -/
def magnitude (d : Decimal) : Int :=
  d.exponent + width d.digits

/-- The number of units nearest to the decimal. -/
def units (d : Decimal) : Nat :=
  if 0 ≤ d.exponent then
    Double.roundUnits (d.digits * Nat.pow 10 d.exponent.toNat * unitsPerOne) 1
  else
    Double.roundUnits (d.digits * unitsPerOne) (Nat.pow 10 (-d.exponent).toNat)

end Decimal

namespace Double

/-- The double nearest to a decimal, with the given sign. -/
def ofDecimal (negative : Bool) (d : Decimal) : Double :=
  if d.digits = 0 ∨ d.magnitude < -330 then ofUnits negative 0
  else if 310 < d.magnitude then infinite negative
  else ofUnits negative d.units

/-! ### The written forms of a double

An optional sign, then either digits with at most one point and an optional exponent, or one of the
words `inf`, `infinity` and `nan` in any case. At least one digit must be given.
-/

/-- A decimal exponent: an optional sign and at least one digit. -/
def exponent? (cs : List Char) : Option Int :=
  Text.integer? cs

/-- Digits before and after an optional point, and what follows. -/
def mantissa (cs : List Char) : List Char × List Char × List Char :=
  let whole := cs.takeWhile Char.isDigit
  match cs.dropWhile Char.isDigit with
  | '.' :: rest => (whole, rest.takeWhile Char.isDigit, rest.dropWhile Char.isDigit)
  | rest => (whole, [], rest)

/-- The decimal written by digits before the point, digits after it and an exponent. -/
def decimalOf (whole fraction : List Char) (exponent : Int) : Decimal :=
  ⟨Text.ofDigits (whole ++ fraction), exponent - fraction.length⟩

/-- A decimal without a sign. -/
def decimal? (cs : List Char) : Option Decimal :=
  match mantissa cs with
  | ([], [], _) => none
  | (whole, fraction, []) => some (decimalOf whole fraction 0)
  | (whole, fraction, c :: rest) =>
    if c = 'e' ∨ c = 'E' then (exponent? rest).map (decimalOf whole fraction) else none

/-- A double without a sign, the sign being given. -/
def unsigned? (negative : Bool) (cs : List Char) : Option Double :=
  match String.ofList (cs.map Char.toLower) with
  | "inf" | "infinity" => some (infinite negative)
  | "nan" => some nan
  | _ => (decimal? cs).map (ofDecimal negative)

/-- The double that a text writes, if the whole text writes one. -/
def ofChars? : List Char → Option Double
  | '+' :: cs => unsigned? false cs
  | '-' :: cs => unsigned? true cs
  | cs => unsigned? false cs

/-- The double that a text writes, if the whole text writes one. -/
def ofText? (s : String) : Option Double :=
  ofChars? s.toList

end Double

end GuardedSearch
