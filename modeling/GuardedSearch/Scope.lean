import GuardedSearch.Catalog.Resolution

/-!
# Scopes

All names in a request are seen from one entity of one catalog. A scope is that view, together with
the limit on the depth of conditions.
-/

namespace GuardedSearch

/-- What the names in a request are seen from. The entity is named as the request names it, and
there may be none of that name. -/
structure Scope where
  catalog : Catalog
  entity : String
  maxDepth : Nat
  deriving DecidableEq, Repr

namespace Scope

/-- The entity that the scope is about. -/
def root (s : Scope) : Except SearchError Entity :=
  s.catalog.requireEntity s.entity

/-- The values that a name is about. -/
def target (s : Scope) (name : String) : Except SearchError Target := do
  s.catalog.target (← s.root) name

end Scope

end GuardedSearch
