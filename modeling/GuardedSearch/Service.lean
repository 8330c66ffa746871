import GuardedSearch.Catalog.Store
import GuardedSearch.Metrics

/-!
# Services

A service answers searches from the catalog that its store has in force, and counts them if it is
told to.
-/

namespace GuardedSearch

/-- A store, a backend, limits, and what has been counted, if anything is. -/
structure Service where
  store : CatalogStore
  backend : Backend
  settings : Settings
  metrics : Option Metrics

namespace Service

/-- Answers a search, and counts it. The whole search is answered from one catalog. -/
def search (s : Service) (entity : String) (r : Request) :
    Except SearchError Response × Service :=
  let outcome := r.run s.store.current s.settings s.backend entity
  (outcome.response,
    { s with metrics := s.metrics.map fun m => m.record entity s.store.generation outcome })

/-- The properties of an entity with their paths. -/
def describe (s : Service) (entity : String) : Except SearchError (List PropertyDescription) :=
  s.store.current.describe entity

/-- The policy of an entity. -/
def policy (s : Service) (entity : String) : Except SearchError (List Condition) :=
  s.store.current.policy entity

/-- The same service with another store. -/
def withStore (s : Service) (store : CatalogStore) : Service :=
  { s with store }

end Service

end GuardedSearch
