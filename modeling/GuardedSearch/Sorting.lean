import GuardedSearch.Scope

/-!
# Sorting

A request sorts by fields, each in ascending or descending order; the first field on which two
documents differ decides. A field of a bridge cannot be sorted by.
-/

namespace GuardedSearch

/-- An order of values. -/
inductive Direction where
  | ascending
  | descending
  deriving DecidableEq, Repr

namespace Direction

/-- The name of a direction. -/
def name : Direction → String
  | ascending => "ASC"
  | descending => "DESC"

/-- The direction of a name in upper or lower case. -/
def ofName? : String → Option Direction
  | "ASC" | "asc" => some ascending
  | "DESC" | "desc" => some descending
  | _ => none

/-- The decoder of a direction by its name. -/
def decoder : Decoder Direction :=
  Decoder.variant ofName? ["ASC", "asc", "DESC", "desc"]

end Direction

/-- A field to sort by, as a request gives it. -/
structure SortField where
  field : String
  direction : Direction
  deriving DecidableEq, Repr

/-- A path to sort by. -/
structure SortKey where
  path : String
  direction : Direction
  deriving DecidableEq, Repr

/-- A field to sort by of which not everything is known. -/
structure SortField.Draft where
  field : Option String
  direction : Option Direction

/-- How a field to sort by is decoded. -/
def SortField.record : Record SortField.Draft SortField where
  title := "SortSpec"
  fields := ["field", "direction"]
  canonical := fun key => key
  blank := ⟨none, none⟩
  fill := fun p d name r =>
    match name with
    | "field" => do
      let field ← Decoder.once name d.field (Decoder.string p r)
      return { d with field }
    | "direction" => do
      let direction ← Decoder.once name d.direction (Direction.decoder p r)
      return { d with direction }
    | _ => return d
  complete := fun d =>
    match d.field with
    | none => .error "field"
    | some field => .ok ⟨field, d.direction.getD .ascending⟩

namespace Scope

/-- The path to sort by for a field. -/
def sortKey (s : Scope) (root : Entity) (f : SortField) : Except SearchError SortKey := do
  let target ← s.catalog.target root f.field
  if target.type.any fun t => !t.isSearchable then
    throw (.invalidRequest (.entitySort f.field))
  return ⟨target.paths.exact, f.direction⟩

/-- The paths to sort by for a list of fields. -/
def sortKeys (s : Scope) (fields : List SortField) : Except SearchError (List SortKey) :=
  if fields.isEmpty then .ok []
  else do
    let root ← s.root
    fields.mapM (s.sortKey root)

end Scope

end GuardedSearch
