import GuardedSearch.Scope
import GuardedSearch.Statistics

/-!
# Facets and statistics of a request

A request names the fields whose distribution it wants, as facets, and those whose statistics it
wants. Each is asked of the backend as an aggregation, under a name of its own, and what the backend
gives under that name is reported under the key of the request.

## Main definitions

* `Aggregation`: a distribution asked of a backend.
* `Scope.facets`, `Scope.statistics`: the aggregations for the keys of a request.
* `Aggregation.countsOf`, `Aggregation.statisticsOf`: what a request gets for a key.
-/

namespace GuardedSearch

/-- A distribution asked of a backend: of the values at a path, in so many buckets at the most. The
backend reports it under the name, and the client under the key. -/
structure Aggregation where
  name : String
  key : String
  path : String
  type : Option DataType
  cap : Nat
  deriving DecidableEq, Repr

/-- What a backend reports under the names of aggregations. -/
abbrev Distributions := Table Distribution

/-- The name under which the statistics of a key are asked for. -/
def Aggregation.statisticsName (key : String) : String :=
  "stats_" ++ key

namespace Scope

/-! ### What a request asks for -/

/-- The aggregation for one facet. -/
def facet (s : Scope) (cap : Nat) (key : String) : Except SearchError Aggregation := do
  let target ← s.target key
  if target.type = some .entity then throw (.invalidRequest (.entityFacet key))
  return ⟨key, key, target.paths.exact, target.type, cap⟩

/-- The aggregations for the facets of a request, one for each key. -/
def facets (s : Scope) (cap : Nat) (keys : List String) : Except SearchError (List Aggregation) :=
  keys.eraseDups.mapM (s.facet cap)

/-- The aggregation for the statistics of one key. -/
def statistic (s : Scope) (cap : Nat) (key : String) : Except SearchError Aggregation := do
  let target ← s.target key
  match target.type with
  | some type =>
    if !type.isNumeric then throw (.typeMismatch key .double type.name)
  | none => pure ()
  return ⟨Aggregation.statisticsName key, key, target.paths.exact, target.type, cap⟩

/-- The aggregations for the statistics of a request, one for each key. -/
def statistics (s : Scope) (cap : Nat) (keys : List String) :
    Except SearchError (List Aggregation) :=
  keys.eraseDups.mapM (s.statistic cap)

end Scope

namespace Aggregation

/-! ### What a request gets -/

/-- The counts for one facet; there are none if nothing is reported for it. -/
def countsOf (ds : Distributions) (a : Aggregation) : Table Nat :=
  ((Table.value? a.name ds).getD .empty).counts

/-- The statistics for one key. -/
def statisticsOf (ds : Distributions) (a : Aggregation) : Statistics :=
  match Table.value? a.name ds with
  | some d => .ofDistribution d
  | none => .none

/-- What is reported for each key, by the given view of the reports. -/
def answers {α : Type} (view : Aggregation → α) (asked : List Aggregation) : Table α :=
  Table.ofList (asked.map fun a => (a.key, view a))

end Aggregation

end GuardedSearch
