import GuardedSearch.Double.Arithmetic
import GuardedSearch.Table
import GuardedSearch.Text.Numeral

/-!
# JSON values

Documents, filters and metadata are JSON. A number keeps whether it was written as a whole number of
64 bits or as a double; the two never compare equal as values. The members of an object stand in the
order in which they are printed: a value that was read has them as a table.
-/

namespace GuardedSearch

/-- A number: whole, or a finite double. -/
inductive Json.Number where
  | whole (n : Int)
  | double (x : Double.Finite)
  deriving DecidableEq

/-- A JSON value. -/
inductive Json where
  | null
  | bool (b : Bool)
  | number (n : Json.Number)
  | string (s : String)
  | array (items : List Json)
  | object (members : List (String × Json))
  deriving Inhabited

namespace Json

/-- The number as a double, rounded if need be. -/
def Number.toDouble : Number → Double
  | whole n => .ofInt n
  | double x => .finite x

/-- The number as a whole number of 64 bits with a sign, if it was written as one. -/
def Number.int64? : Number → Option Int
  | whole n => if Text.fitsInt64 n then some n else none
  | double _ => none

/-- A natural number. -/
def ofNat (n : Nat) : Json :=
  number (.whole n)

/-- A finite double as a number; NaN and the infinities have no number and become null. -/
def ofDouble : Double → Json
  | .finite x => number (.double x)
  | _ => null

/-- A list of texts. -/
def ofStrings (texts : List String) : Json :=
  array (texts.map string)

/-- The member of an object with a given name. -/
def member? (name : String) : Json → Option Json
  | object members => Table.value? name members
  | _ => none

/-- Whether the value is an object. -/
def isObject : Json → Bool
  | object _ => true
  | _ => false

end Json

end GuardedSearch
