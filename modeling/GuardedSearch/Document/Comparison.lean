import GuardedSearch.Literal

/-!
# Comparing stored values

A stored value is compared with a literal of a filter, as the kind of thing that the literal is. Two
stored values are compared with each other when documents are sorted; then all values are in order.
-/

namespace GuardedSearch

/-- The truth value that a text is exactly. -/
def Text.bool? : String → Option Bool
  | "true" => some true
  | "false" => some false
  | _ => none

namespace Json

/-! ### With a literal -/

/-- The instant that a stored value denotes. A whole number counts milliseconds. -/
def toInstant? : Json → Option Instant
  | string s => Instant.ofText? s
  | number n => n.int64?.bind Instant.ofMilliseconds?
  | _ => none

/-- How a stored value lies to a literal, if they can be compared. -/
def compareTo? (v : Json) (l : Literal) : Option Ordering :=
  match v, l with
  | v, .date t => v.toInstant?.map fun s => s.compare t
  | number n, l => l.toDouble?.bind n.toDouble.compare?
  | bool b, .bool c => some (compare b c)
  | bool b, .string s => (Text.bool? s).map fun c => compare b c
  | string s, .string t => some (compare s t)
  | string s, .bool c => (Text.bool? s).map fun b => compare b c
  | string s, l => (Literal.textDouble? s).bind fun x => l.toDouble?.bind x.compare?
  | _, _ => none

/-- Whether a stored value is the value of a literal. -/
def equals (v : Json) (l : Literal) : Bool :=
  v.compareTo? l == some .eq

/-! ### With each other -/

/-- The rank of a kind of value: booleans, then numbers, then texts. -/
def rank : Json → Nat
  | bool _ => 0
  | number _ => 1
  | string _ => 2
  | null | array _ | object _ => 3

/-- The order of stored values. -/
def order : Json → Json → Ordering
  | number m, number n => (m.toDouble.compare? n.toDouble).getD .eq
  | string s, string t => compare s t
  | bool b, bool c => compare b c
  | v, w => compare v.rank w.rank

end Json

end GuardedSearch
