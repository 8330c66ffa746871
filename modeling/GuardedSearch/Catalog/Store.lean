import GuardedSearch.Catalog.Basic

/-!
# Publishing catalogs

A store holds the catalog in force. Publishing replaces it and counts up its generation; whoever has
taken a catalog out before keeps it. A source of metadata is read once for the entities and once for
the rules, and a source that fails leaves the store as it is.
-/

namespace GuardedSearch

/-! ### Sources -/

/-- What reading a source of metadata gives: the entities by one reading, the rules by the next. -/
structure MetadataReadings where
  entities : Except SearchError (List Entity)
  rules : Except SearchError (List AccessRule)

namespace MetadataReadings

/-- A source that gives the same document at both readings. -/
def ofMetadata (m : Metadata) : MetadataReadings :=
  ⟨.ok m.entities, .ok m.rules⟩

/-- A file as a source, with the contents that it has at the two readings. -/
def ofContents (first second : Option String) : MetadataReadings :=
  ⟨Metadata.entities <$> Metadata.load first, Metadata.rules <$> Metadata.load second⟩

/-- A file as a source, if nobody changes it meanwhile. -/
def ofFile (content : Option String) : MetadataReadings :=
  ofContents content content

/-- The catalog of a source. -/
def catalog (s : MetadataReadings) : Except SearchError Catalog := do
  let entities ← s.entities
  let rules ← s.rules
  Catalog.build ⟨entities, rules⟩

end MetadataReadings

/-! ### Stores -/

/-- The place of the catalog in force. -/
structure CatalogStore where
  current : Catalog
  deriving DecidableEq, Repr

namespace CatalogStore

/-- A store that begins with the given catalog. -/
def new (c : Catalog) : CatalogStore :=
  ⟨c.withGeneration 1⟩

/-- A store without entities and rules. -/
def empty : CatalogStore :=
  new .empty

/-- A store that begins with the catalog of a source. -/
def ofSource (s : MetadataReadings) : Except SearchError CatalogStore :=
  new <$> s.catalog

/-- The generation in force. -/
def generation (s : CatalogStore) : Nat :=
  s.current.generation

/-- The first half of publishing: the generation that the next catalog is to have. -/
def nextGeneration (s : CatalogStore) : Nat :=
  s.generation + 1

/-- The second half of publishing: puts a catalog into force as the given generation. -/
def put (_ : CatalogStore) (c : Catalog) (generation : Nat) : CatalogStore :=
  ⟨c.withGeneration generation⟩

/-- Puts a catalog into force. -/
def publish (s : CatalogStore) (c : Catalog) : CatalogStore :=
  s.put c s.nextGeneration

/-- Puts the catalog of a source into force. -/
def reload (s : CatalogStore) (source : MetadataReadings) : Except SearchError CatalogStore :=
  s.publish <$> source.catalog

end CatalogStore

end GuardedSearch
