import GuardedSearch.Entity
import GuardedSearch.Json.Printer

/-!
# Values in documents

A path is a list of names with dots between them. The values at a path are what is reached from the
root of a document by following the names through objects; below the root, arrays are passed
through, and nulls are passed over.

A document may store a text once for comparison and once for search. If it has nothing at the path
for search, the values for comparison stand in.

## Main definitions

* `Json.valuesAt`: the values at a path.
* `Json.fieldValues`: the same, with the stand-ins for a path for search.
-/

namespace GuardedSearch

namespace Json

/-! ### Following a path -/

mutual

/-- What a value holds once arrays have been passed through and nulls passed over. -/
def leaves : Json → List Json
  | null => []
  | array items => leavesOf items
  | bool b => [bool b]
  | number n => [number n]
  | string s => [string s]
  | object members => [object members]

/-- What the values of a list hold. -/
def leavesOf : List Json → List Json
  | [] => []
  | v :: rest => leaves v ++ leavesOf rest

end

/-- What a value holds under a name. -/
def under (name : String) (v : Json) : List Json :=
  match v.member? name with
  | some child => leaves child
  | none => []

/-- What values hold at the end of a list of names. -/
def follow : List String → List Json → List Json
  | [], values => values
  | name :: names, values => follow names (values.flatMap (under name))

/-- The names that a path consists of. -/
def names (path : String) : List String :=
  (Text.pieces '.' path.toList).map String.ofList

/-- The values at a path. -/
def valuesAt (path : String) (source : Json) : List Json :=
  follow (names path) [source]

/-- The values at a path. A path for search without values gives way to the path for comparison, and
that to the path without either ending. -/
def fieldValues (path : String) (source : Json) : List Json :=
  match valuesAt path source, Text.withoutEnding? PathPair.textEnding path with
  | [], some stem =>
    match valuesAt (stem ++ PathPair.keywordEnding) source with
    | [] => valuesAt stem source
    | values => values
  | values, _ => values

/-! ### Texts -/

/-- The text of a single value. -/
def text? : Json → Option String
  | string s => some s
  | number n => some n.toText
  | bool b => some (boolText b)
  | null | array _ | object _ => none

theorem leavesOf_eq_flatMap (items : List Json) : leavesOf items = items.flatMap leaves := by
  induction items with
  | nil => rfl
  | cons v rest ih => simp [leavesOf, ih]

theorem follow_nil (names : List String) : follow names [] = [] := by
  induction names with
  | nil => rfl
  | cons name names ih => simpa [follow] using ih

theorem follow_append (names : List String) (vs ws : List Json) :
    follow names (vs ++ ws) = follow names vs ++ follow names ws := by
  induction names generalizing vs ws with
  | nil => rfl
  | cons name names ih => simp [follow, List.flatMap_append, ih]

end Json

end GuardedSearch
