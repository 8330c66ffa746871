import GuardedSearch.Aggregation
import GuardedSearch.Distribution.OfDocuments
import GuardedSearch.Predicate.Rows
import GuardedSearch.Settings
import GuardedSearch.Sorting.Order

/-!
# Backends

A backend answers a search that has been planned: it knows nothing of entities and rules. The
backend of a list of documents keeps the documents that match, orders them, and cuts out a page.

## Main definitions

* `SearchPlan`, `SearchAnswer`, `Backend`: what a backend is asked, what it answers, and what it is.
* `SearchPlan.run`: the answer of a list of documents.
-/

namespace GuardedSearch

/-- A search as a backend is asked for it. -/
structure SearchPlan where
  predicate : Predicate
  sort : List SortKey
  page : Settings.Page
  aggregations : List Aggregation

/-- The hits of one page, the number of all hits, and the distributions. -/
structure SearchAnswer where
  hits : List Document
  total : Nat
  distributions : Distributions

/-- Answers searches, or is not available. -/
abbrev Backend := SearchPlan → Except SearchError SearchAnswer

namespace Settings.Page

/-- The greatest number of hits that can be passed over. -/
def maxOffset : Nat := 0xFFFFFFFFFFFFFFFF

/-- How many hits come before the page. -/
def offset (p : Page) : Nat :=
  min (p.number * p.size) maxOffset

/-- The items on the page. -/
def cut {α : Type} (p : Page) (items : List α) : List α :=
  (items.drop p.offset).take p.size

end Settings.Page

namespace SearchPlan

/-- The documents that match, in the order of hits. -/
def allHits (plan : SearchPlan) (docs : List Document) : List Document :=
  SortKey.sort plan.sort (plan.predicate.matching docs)

/-- What a list of documents reports for the aggregations. -/
def distributions (plan : SearchPlan) (docs : List Document) : Distributions :=
  let found := plan.predicate.matching docs
  Table.ofList (plan.aggregations.map fun a => (a.name, .ofDocuments a.path a.cap found))

/-- The answer of a list of documents. -/
def run (plan : SearchPlan) (docs : List Document) : SearchAnswer where
  hits := plan.page.cut (plan.allHits docs)
  total := (plan.predicate.matching docs).length
  distributions := plan.distributions docs

end SearchPlan

/-- The backend of a list of documents, which is always available. -/
def Backend.ofDocuments (docs : List Document) : Backend :=
  fun plan => .ok (plan.run docs)

end GuardedSearch
