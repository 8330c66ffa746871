import GuardedSearch.DataType
import GuardedSearch.Text.Case
import GuardedSearch.Text.Search

/-!
# Entities and properties

An entity is a kind of document, such as a person, with named properties. A property is a field of a
document or a bridge to another entity, whose fields lie below it. The *path* of a property says
where in a document its values are stored.
-/

namespace GuardedSearch

/-- A property of an entity. The `path` overrides the name as the place of the values; the
`target` names the entity that a bridge leads to. -/
structure Property where
  id : Nat
  name : String
  type : DataType
  path : Option String
  target : Option String
  deriving DecidableEq, Repr

/-- An entity with its properties in the order of declaration. -/
structure Entity where
  id : Nat
  name : String
  isRoot : Bool
  properties : List Property
  deriving DecidableEq, Repr

namespace Property

/-- A field with its values under its name. -/
def field (id : Nat) (name : String) (type : DataType) : Property :=
  ⟨id, name, type, none, none⟩

/-- A bridge to an entity. -/
def bridge (id : Nat) (name target : String) : Property :=
  ⟨id, name, .entity, none, some target⟩

/-- The same property with its values at another path. -/
def withPath (p : Property) (path : String) : Property :=
  { p with path := some path }

/-- The name of the entity that the property leads to, if it is a bridge. -/
def bridgeTarget? (p : Property) : Option String :=
  if p.type = .entity then p.target else none

/-- Where in the documents of its own entity the property's values are. An empty path counts as
none. -/
def ownPath (p : Property) : String :=
  match p.path with
  | some path => if path.isEmpty then p.name else path
  | none => p.name

end Property

namespace Entity

/-- Whether this is the entity's name, up to ASCII case. -/
def isNamed (e : Entity) (name : String) : Bool :=
  Text.sameIgnoringAsciiCase e.name name

/-- The first property of a given name, up to ASCII case. -/
def property? (e : Entity) (name : String) : Option Property :=
  e.properties.find? fun p => Text.sameIgnoringAsciiCase p.name name

/-- The bridges in the order of declaration. -/
def bridges (e : Entity) : List Property :=
  e.properties.filter fun p => p.bridgeTarget?.isSome

/-- The first bridge whose target has the given name, up to ASCII case. -/
def bridgeTo? (e : Entity) (name : String) : Option Property :=
  e.bridges.find? fun p => p.bridgeTarget?.any (Text.sameIgnoringAsciiCase · name)

end Entity

/-! ### Paths -/

/-- The two places where the values of a field may be stored: for comparison as they are, and for
search in their text. They differ for paths with the ending `_keyword` only. -/
structure PathPair where
  exact : String
  text : String
  deriving DecidableEq, Repr

namespace PathPair

/-- The ending of the path of values to be compared as they are. -/
def keywordEnding : String := "_keyword"

/-- The ending of the path of values to be searched in. -/
def textEnding : String := "_text"

/-- Both places for a field with the given path. -/
def ofPath (path : String) : PathPair :=
  match Text.withoutEnding? keywordEnding path with
  | some stem => ⟨path, stem ++ textEnding⟩
  | none => ⟨path, path⟩

@[simp] theorem exact_ofPath (path : String) : (ofPath path).exact = path := by
  unfold ofPath; split <;> rfl

end PathPair

end GuardedSearch
