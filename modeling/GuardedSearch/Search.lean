import GuardedSearch.Backend
import GuardedSearch.Policy
import GuardedSearch.Predicate.OfText
import GuardedSearch.Request
import GuardedSearch.Response

/-!
# Searching

A search is answered from one catalog. First it is admitted: there has to be an entity of its name
and a page of its size, and its filter is secured by the policy of the entity. Then it is planned,
and the plan is given to a backend. A fault anywhere is the fault of the whole search.

## Main definitions

* `Admission`, `Request.admission`: a request that has been secured.
* `PlannedSearch`, `Admission.plan`: the search as a backend is asked for it.
* `Request.run`: the whole search.
-/

namespace GuardedSearch

/-- A request that has been admitted. -/
structure Admission where
  scope : Scope
  page : Settings.Page
  filter : GuardedFilter

/-- A plan, with the aggregations in it that stand for facets and for statistics. -/
structure PlannedSearch where
  plan : SearchPlan
  facets : List Aggregation
  statistics : List Aggregation

/-- What became of a search: the number of conditions that its policy added, if it was admitted, and
the response. -/
structure SearchOutcome where
  policySize : Option Nat
  response : Except SearchError Response

namespace Request

/-- Admits a request. -/
def admission (c : Catalog) (settings : Settings) (entity : String) (r : Request) :
    Except SearchError Admission := do
  let _ ← c.requireEntity entity
  let page ← settings.page r.page r.size
  let filter ← GuardedFilter.secure c entity r.filter
  return ⟨⟨c, entity, settings.maxDepth⟩, page, filter⟩

end Request

/-- The predicate for a filter and for free text together. -/
def Predicate.withText (filter : Predicate) (text : Option Predicate) : Predicate :=
  match filter, text with
  | filter, none => filter
  | .matchAll, some text => text
  | filter, some text => .all [filter, text]

namespace Admission

/-- The predicate for a request that has been admitted. -/
def predicate (a : Admission) (r : Request) : Except SearchError Predicate := do
  let filter ← a.filter.predicate a.scope
  match r.text with
  | none => return filter
  | some text => return filter.withText (← Predicate.ofText? a.scope text)

/-- Refuses a facet whose name is also the name of statistics. -/
def checkNames (facets statistics : List Aggregation) : Except SearchError Unit :=
  match facets.find? fun f => statistics.any fun s => s.name == f.name with
  | some f => .error (.invalidRequest (.facetClash f.key))
  | none => .ok ()

/-- Plans a request that has been admitted. -/
def plan (a : Admission) (settings : Settings) (r : Request) :
    Except SearchError PlannedSearch := do
  let predicate ← a.predicate r
  let sort ← a.scope.sortKeys r.sort
  let facets ← a.scope.facets settings.facetCap r.facets
  let statistics ← a.scope.statistics settings.statsCap r.statistics
  checkNames facets statistics
  return ⟨⟨predicate, sort, a.page, facets ++ statistics⟩, facets, statistics⟩

end Admission

/-- The response that an answer to a plan makes. -/
def PlannedSearch.response (p : PlannedSearch) (answer : SearchAnswer) : Response where
  results := answer.hits.map Document.source
  facets := Aggregation.answers (Aggregation.countsOf answer.distributions) p.facets
  statistics := Aggregation.answers (Aggregation.statisticsOf answer.distributions) p.statistics
  total := answer.total
  pages := Response.pageCount answer.total p.plan.page.size

namespace Request

/-- Answers a request that has been admitted. -/
def respond (settings : Settings) (backend : Backend) (a : Admission) (r : Request) :
    Except SearchError Response := do
  let planned ← a.plan settings r
  return planned.response (← backend planned.plan)

/-- Answers a request. -/
def run (c : Catalog) (settings : Settings) (backend : Backend) (entity : String)
    (r : Request) : SearchOutcome :=
  match r.admission c settings entity with
  | .error e => ⟨none, .error e⟩
  | .ok a => ⟨some a.filter.policy.length, r.respond settings backend a⟩

end Request

end GuardedSearch
