import GuardedSearch.Double.Shortest

/-!
# Printing doubles

A double has two written forms, both built on its shortest decimal.

* The plain form never uses an exponent and has no point where none is needed.
* The JSON form always has a point or an exponent, the exponent for magnitudes from `10 ^ 16` on and
  below `10 ^ -5`. NaN and the infinities have no JSON form.

They differ in one digit where a value lies half-way between two decimals that both read back: the
plain form goes away from zero, the JSON form to the even digit.
-/

namespace GuardedSearch

namespace Decimal

/-- The digits as text. -/
def digitChars (d : Decimal) : List Char :=
  Nat.toDigits 10 d.digits

/-- So many zeros. -/
def zeros (n : Nat) : List Char :=
  List.replicate n '0'

/-- The decimal without an exponent; `wholeEnd` follows the digits of a whole number. -/
def positional (wholeEnd : List Char) (d : Decimal) : List Char :=
  let ds := d.digitChars
  if 0 ≤ d.exponent then ds ++ zeros d.exponent.toNat ++ wholeEnd
  else
    let places := (-d.exponent).toNat
    if places < ds.length then ds.take (ds.length - places) ++ '.' :: ds.drop (ds.length - places)
    else '0' :: '.' :: zeros (places - ds.length) ++ ds

/-- The decimal with one digit before the point and an exponent with its sign. -/
def scientific (d : Decimal) : List Char :=
  let exponent := d.magnitude - 1
  let mantissa := match d.digitChars with
    | c :: [] => [c]
    | c :: rest => c :: '.' :: rest
    | [] => []
  mantissa ++ 'e' :: (if exponent < 0 then '-' else '+') :: Nat.toDigits 10 exponent.natAbs

end Decimal

namespace Double

/-- The sign of a finite double. -/
def Finite.sign (x : Finite) : List Char :=
  if x.negative then ['-'] else []

/-- The plain form. -/
def toPlain : Double → String
  | nan => "NaN"
  | infinite false => "inf"
  | infinite true => "-inf"
  | finite x =>
    String.ofList (x.sign ++ if x.units = 0 then ['0'] else (shortest .away x.units).positional [])

/-- The JSON form of a finite double. -/
def Finite.toJson (x : Finite) : String :=
  let unsigned :=
    if x.units = 0 then ['0', '.', '0']
    else
      let d := shortest .toEven x.units
      if -5 < d.magnitude ∧ d.magnitude ≤ 16 then d.positional ['.', '0'] else d.scientific
  String.ofList (x.sign ++ unsigned)

end Double

end GuardedSearch
