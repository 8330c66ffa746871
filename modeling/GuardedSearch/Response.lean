import GuardedSearch.Document
import GuardedSearch.Statistics

/-!
# Responses

What a client gets: the documents of one page, the facets and statistics, and how much there is in
all.
-/

namespace GuardedSearch

/-- What a client gets. -/
structure Response where
  results : List Json
  facets : Table (Table Nat)
  statistics : Table Statistics
  total : Nat
  pages : Nat

namespace Response

/-- The number of pages of the given size that a number of hits takes. -/
def pageCount (total size : Nat) : Nat :=
  (total + size - 1) / size

/-- A table in JSON. -/
def tableJson {α : Type} (toJson : α → Json) (table : Table α) : Json :=
  .object (table.map fun (name, value) => (name, toJson value))

/-- The counts of facets in JSON. -/
def facetsJson (facets : Table (Table Nat)) : Json :=
  tableJson (tableJson Json.ofNat) facets

/-- The response in JSON. -/
def toJson (r : Response) : Json :=
  .object [("results", .array r.results), ("facets", facetsJson r.facets),
    ("stats", tableJson Statistics.toJson r.statistics), ("totalElements", .ofNat r.total),
    ("totalPages", .ofNat r.pages)]

end Response

end GuardedSearch
