import GuardedSearch.Json.Decode
import GuardedSearch.Text.Blank

/-!
# Data types

Every property has a declared type. The type decides which operators, sorts and statistics a
property admits, and what the values of a filter on it are coerced to.
-/

namespace GuardedSearch

/-- The declared type of a property. An `entity` property is a bridge to another entity. -/
inductive DataType where
  | string
  | int
  | double
  | boolean
  | date
  | entity
  deriving DecidableEq, Repr

namespace DataType

/-- The name of a type. -/
def name : DataType → String
  | string => "STRING"
  | int => "INT"
  | double => "DOUBLE"
  | boolean => "BOOLEAN"
  | date => "DATE"
  | entity => "ENTITY"

/-- The type that a name stands for. Case and surrounding white space do not matter, some types go
by several names, and any other name stands for `string`. -/
def ofName (s : String) : DataType :=
  match String.ofList ((Text.trimChars s.toList).map Char.toUpper) with
  | "INT" | "INTEGER" | "LONG" => int
  | "DOUBLE" | "FLOAT" => double
  | "BOOLEAN" | "BOOL" => boolean
  | "DATE" => date
  | "ENTITY" => entity
  | _ => string

/-- Whether the values are numbers. -/
def isNumeric : DataType → Bool
  | int | double => true
  | _ => false

/-- Whether values can be compared with a bound. -/
def hasRange : DataType → Bool
  | int | double | date => true
  | _ => false

/-- Whether values can be searched for parts of a text. -/
def hasText : DataType → Bool
  | string => true
  | _ => false

/-- Whether a property can be filtered, sorted or counted at all. -/
def isSearchable : DataType → Bool
  | entity => false
  | _ => true

/-- The decoder of a type by its name. -/
def decoder : Decoder DataType
  | p, r => ofName <$> Decoder.string p r

@[simp] theorem ofName_name (t : DataType) : ofName t.name = t := by
  cases t <;> rfl

end DataType

end GuardedSearch
