import GuardedSearch.Predicate
import GuardedSearch.Scope

/-!
# The predicate of free text

Free text is looked for in every text property of the root entity and of the entities that its
bridges lead to. Blank text asks for nothing.
-/

namespace GuardedSearch

namespace Scope

/-- The text properties that free text is looked for in: those of the root, then those of the
entities its bridges lead to. -/
def textProperties (s : Scope) (root : Entity) : List OwnedProperty :=
  (root :: s.catalog.bridged root).flatMap fun e =>
    (e.properties.filter fun p => p.type == .string).map (OwnedProperty.mk e)

/-- The paths that free text is looked for at, each once. -/
def textPaths (s : Scope) : Except SearchError (List String) := do
  let root ← s.root
  let paths ← (s.textProperties root).mapM (Catalog.pathsFrom root)
  return (paths.map PathPair.text).eraseDups

end Scope

/-- The predicate of free text, if the text is not blank. -/
def Predicate.ofText? (s : Scope) (text : String) : Except SearchError (Option Predicate) :=
  let query := Text.trim text
  if query.isEmpty then .ok none
  else do
    let paths ← s.textPaths
    return some (.fullText paths query)

end GuardedSearch
