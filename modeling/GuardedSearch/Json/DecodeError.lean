import GuardedSearch.Json.Printer
import GuardedSearch.Json.Raw
import GuardedSearch.Text.Quoted

/-!
# Why a decoding fails

Each cause has one wording. A text that stops being JSON is a cause of its own, without data.
-/

namespace GuardedSearch

/-- What a decoder found where it wanted something else. -/
inductive Found where
  | null
  | bool (b : Bool)
  | number (n : Json.Number)
  | string (s : String)
  | sequence
  | map
  deriving DecidableEq

/-- The wording of what was found. -/
def Found.text : Found → String
  | null => "null"
  | bool b => s!"boolean `{Json.boolText b}`"
  | number (.whole n) => s!"integer `{n}`"
  | number (.double x) => s!"floating point `{x.toJson}`"
  | string s => s!"string {Text.quoted s}"
  | sequence => "sequence"
  | map => "map"

/-- Why a value could not be decoded. -/
inductive DecodeError where
  | notJson (e : SyntaxError)
  | missingField (name : String)
  | duplicateField (name : String)
  | unknownField (name : String) (expected : List String)
  | unknownVariant (name : String) (expected : List String)
  | invalidType (found : Found) (expected : String)
  | invalidValue (found : Found) (expected : String)
  | invalidLength (length : Nat) (expected : String)
  | operatorWithoutField (operator : String)
  | notScalar (value : Json)

namespace DecodeError

/-- Names in backquotes with commas between them. -/
def listed (names : List String) : String :=
  ", ".intercalate (names.map fun name => s!"`{name}`")

/-- The wording of a cause. -/
def message : DecodeError → String
  | notJson e => e.message
  | missingField name => s!"missing field `{name}`"
  | duplicateField name => s!"duplicate field `{name}`"
  | unknownField name expected => s!"unknown field `{name}`, expected one of {listed expected}"
  | unknownVariant name expected => s!"unknown variant `{name}`, expected one of {listed expected}"
  | invalidType found expected => s!"invalid type: {found.text}, expected {expected}"
  | invalidValue found expected => s!"invalid value: {found.text}, expected {expected}"
  | invalidLength length expected => s!"invalid length {length}, expected {expected}"
  | operatorWithoutField operator => s!"operator '{operator}' requires a 'field'"
  | notScalar value => s!"expected a scalar value, got {value.toCompact}"

end DecodeError

end GuardedSearch
