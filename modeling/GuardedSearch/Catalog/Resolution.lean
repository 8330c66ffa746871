import GuardedSearch.Catalog.Basic

/-!
# Resolving names

A request names fields by the names of properties. A name is looked for among the properties of the
root entity, then among those of the entities that its bridges lead to, one bridge away and no
further. A name with a dot that is found nowhere is itself the path of the values.

## Main definitions

* `Catalog.find?`: the property that a name stands for.
* `Catalog.pathFrom`: where the values of a property lie in documents of the root.
* `Catalog.target`: both together, as every part of a request uses them.
-/

namespace GuardedSearch

/-- A property together with the entity that owns it. -/
structure OwnedProperty where
  owner : Entity
  property : Property
  deriving DecidableEq, Repr

/-- What a name in a request stands for: a property, or a path. -/
inductive Resolved where
  | property (p : OwnedProperty)
  | path (path : String)
  deriving DecidableEq, Repr

/-- Where the values of a field are and which type they have. Values at a path that no property
describes have no type. -/
structure Target where
  paths : PathPair
  type : Option DataType
  deriving DecidableEq, Repr

/-- A property as it is described to a client. -/
structure PropertyDescription where
  name : String
  type : DataType
  path : String
  deriving DecidableEq, Repr

/-- The description in JSON. -/
def PropertyDescription.toJson (d : PropertyDescription) : Json :=
  .object [("name", .string d.name), ("dataType", .string d.type.name), ("path", .string d.path)]

namespace Catalog

/-- The property that a name stands for, seen from a root entity. -/
def find? (c : Catalog) (root : Entity) (name : String) : Option OwnedProperty :=
  match root.property? name with
  | some p => some ⟨root, p⟩
  | none =>
    (c.bridged root).findSome? fun child => (child.property? name).map (OwnedProperty.mk child)

/-- What a name stands for, seen from a root entity. -/
def resolve (c : Catalog) (root : Entity) (name : String) : Except SearchError Resolved :=
  match c.find? root name with
  | some p => .ok (.property p)
  | none => if '.' ∈ name.toList then .ok (.path name) else .error (.fieldNotFound name root.name)

/-- Where the values of a property lie in documents of a root entity: at its own path if the root
owns it, and else below the bridge to its owner. -/
def pathFrom (root : Entity) (p : OwnedProperty) : Except SearchError String :=
  if p.owner.isNamed root.name then .ok p.property.ownPath
  else match root.bridgeTo? p.owner.name with
    | some bridge => .ok (bridge.ownPath ++ "." ++ p.property.ownPath)
    | none => .error (.fieldNotFound p.property.name root.name)

/-- Both paths of a property, seen from a root entity. -/
def pathsFrom (root : Entity) (p : OwnedProperty) : Except SearchError PathPair :=
  PathPair.ofPath <$> pathFrom root p

/-- The values that a name in a request is about. -/
def target (c : Catalog) (root : Entity) (name : String) : Except SearchError Target := do
  match ← c.resolve root name with
  | .property p => return ⟨← pathsFrom root p, some p.property.type⟩
  | .path path => return ⟨PathPair.ofPath path, none⟩

/-- The properties of an entity with their paths. -/
def describe (c : Catalog) (name : String) : Except SearchError (List PropertyDescription) := do
  let e ← c.requireEntity name
  e.properties.mapM fun p => return ⟨p.name, p.type, ← pathFrom e ⟨e, p⟩⟩

end Catalog

end GuardedSearch
