/-!
# Decimal numerals

Reading unsigned and signed whole numbers. Digits are ASCII digits; there is no grouping.
-/

namespace GuardedSearch.Text

/-- The value of a decimal digit. -/
def digitValue (c : Char) : Nat :=
  c.toNat - '0'.toNat

/-- The number written by a sequence of digits. -/
def ofDigits (cs : List Char) : Nat :=
  cs.foldl (fun n c => 10 * n + digitValue c) 0

/-- The number written by a non-empty sequence of characters that are all digits. -/
def natural? (cs : List Char) : Option Nat :=
  if cs.isEmpty || !cs.all Char.isDigit then none else some (ofDigits cs)

/-- A whole number with an optional sign. -/
def integer? : List Char → Option Int
  | '+' :: cs => (natural? cs).map (fun n => (n : Int))
  | '-' :: cs => (natural? cs).map (fun n => -(n : Int))
  | cs => (natural? cs).map (fun n => (n : Int))

/-- The least whole number of 64 bits with a sign. -/
def int64Least : Int := -0x8000000000000000

/-- The greatest whole number of 64 bits with a sign. -/
def int64Greatest : Int := 0x7FFFFFFFFFFFFFFF

/-- The greatest whole number of 64 bits without a sign. -/
def uint64Greatest : Int := 0xFFFFFFFFFFFFFFFF

/-- Whether a whole number fits 64 bits with a sign. -/
def fitsInt64 (n : Int) : Bool :=
  int64Least ≤ n && n ≤ int64Greatest

/-- Whether a whole number fits 64 bits without a sign. -/
def fitsUInt64 (n : Int) : Bool :=
  0 ≤ n && n ≤ uint64Greatest

/-- A whole number of 64 bits with an optional sign. -/
def int64? (cs : List Char) : Option Int :=
  (integer? cs).filter fitsInt64

end GuardedSearch.Text
