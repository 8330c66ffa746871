import GuardedSearch.Instant.Parser
import GuardedSearch.Instant.Printer
import GuardedSearch.SearchError

/-!
# Literals

A literal is a single value in a filter or a bucket. It comes from JSON, or from coercing another
literal to the type of a property.

## Main definitions

* `Literal`, `Literal.plain`, `Literal.shown`: the values and their two written forms.
* `Literal.toDouble?`, `Literal.toInstant?`: the number or instant that a literal denotes.
* `Literal.coerce?`: the value of a type that a literal stands for.
* `Literal.ofJson?`, `Literal.toJson`: literals in JSON.
-/

namespace GuardedSearch

/-- A single value. -/
inductive Literal where
  | int (n : Int)
  | double (x : Double)
  | bool (b : Bool)
  | string (s : String)
  | date (t : Instant)
  deriving DecidableEq

namespace Literal

/-! ### Written forms -/

/-- The literal as text: the key of a bucket, or what a text property stores. -/
def plain : Literal → String
  | int n => toString n
  | double x => x.toPlain
  | bool b => Json.boolText b
  | string s => s
  | date t => t.toText

/-- The literal in a message: a text stands between quotes. -/
def shown : Literal → String
  | string s => s!"\"{s}\""
  | l => l.plain

/-! ### Views -/

/-- The double that a text denotes, white space around it aside. -/
def textDouble? (s : String) : Option Double :=
  Double.ofChars? (Text.trimChars s.toList)

/-- The number that the literal denotes. A text denotes one if it writes one. -/
def toDouble? : Literal → Option Double
  | int n => some (.ofInt n)
  | double x => some x
  | string s => textDouble? s
  | bool _ | date _ => none

/-- The instant that the literal denotes. A whole number counts milliseconds. -/
def toInstant? : Literal → Option Instant
  | date t => some t
  | string s => Instant.ofText? s
  | int n => Instant.ofMilliseconds? n
  | double _ | bool _ => none

/-! ### Coercion -/

/-- The whole number of 64 bits that a double is. The bounds are themselves doubles, so that the
number after the greatest one is let in, and taken for the greatest. -/
def doubleInt? (x : Double) : Option Int :=
  match x.whole? with
  | some n =>
    if Text.int64Least ≤ n ∧ n ≤ Text.int64Greatest + 1 then some (min n Text.int64Greatest)
    else none
  | none => none

/-- The whole number that a text denotes: as a whole number, or else as a double that is one. -/
def textInt? (s : String) : Option Int :=
  (Text.int64? (Text.trimChars s.toList)).or ((textDouble? s).bind doubleInt?)

/-- The truth value that a text denotes, in any case. -/
def textBool? (s : String) : Option Bool :=
  match String.ofList ((Text.trimChars s.toList).map Char.toLower) with
  | "true" => some true
  | "false" => some false
  | _ => none

/-- The value of the given type that the literal stands for. No value has the type `entity`. -/
def coerce? (type : DataType) (l : Literal) : Option Literal :=
  match type, l with
  | .string, l => some (string l.plain)
  | .int, int n => some (int n)
  | .int, double x => (doubleInt? x).map int
  | .int, string s => (textInt? s).map int
  | .double, l => (l.toDouble?.filter Double.isFinite).map double
  | .boolean, bool b => some (bool b)
  | .boolean, string s => (textBool? s).map bool
  | .date, l => l.toInstant?.map date
  | _, _ => none

/-- Coerces a literal, or reports what it cannot be for the given field. -/
def coerce (type : DataType) (field : String) (l : Literal) : Except SearchError Literal :=
  match l.coerce? type with
  | some v => .ok v
  | none => .error (.typeMismatch field type l.shown)

/-! ### Literals in JSON -/

/-- The literal of a number. A whole number too large for 64 bits with a sign becomes a double. -/
def ofNumber (n : Json.Number) : Literal :=
  match n.int64? with
  | some i => int i
  | none => double n.toDouble

/-- The literal that a value is, if it is a single value. -/
def ofJson? : Json → Option Literal
  | .bool b => some (bool b)
  | .number n => some (ofNumber n)
  | .string s => some (string s)
  | _ => none

/-- The literal in JSON. -/
def toJson : Literal → Json
  | int n => .number (.whole n)
  | double x => .ofDouble x
  | bool b => .bool b
  | string s => .string s
  | date t => .string t.toText

/-- The decoder of a literal. -/
def decoder : Decoder Literal
  | p, r => do
    let v ← Decoder.json p r
    match ofJson? v with
    | some l => return l
    | none => throw (.notScalar v)

end Literal

end GuardedSearch
