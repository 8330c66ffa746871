import GuardedSearch.Entity

/-!
# Entities in JSON

An entity and a property are records. Everything but their names has a default value, and the path
of a property may also be given as `dotPath`. Absent paths and targets are left out when a property
is written.
-/

namespace GuardedSearch

/-! ### Properties -/

/-- A property of which not all fields are known. -/
structure Property.Draft where
  id : Option Nat
  name : Option String
  type : Option DataType
  path : Option (Option String)
  target : Option (Option String)

namespace Property

/-- How a property is decoded. -/
def record : Record Draft Property where
  title := "PropertyCfg"
  fields := ["id", "propertyName", "dataType", "dotPathOverride", "representedEntityName"]
  canonical := fun key => if key = "dotPath" then "dotPathOverride" else key
  blank := ⟨none, none, none, none, none⟩
  fill := fun p d name r =>
    match name with
    | "id" => do
      let id ← Decoder.once name d.id (Decoder.natural "u64" p r)
      return { d with id }
    | "propertyName" => do
      let name ← Decoder.once name d.name (Decoder.string p r)
      return { d with name }
    | "dataType" => do
      let type ← Decoder.once name d.type (DataType.decoder p r)
      return { d with type }
    | "dotPathOverride" => do
      let path ← Decoder.once name d.path (Decoder.optional Decoder.string p r)
      return { d with path }
    | "representedEntityName" => do
      let target ← Decoder.once name d.target (Decoder.optional Decoder.string p r)
      return { d with target }
    | _ => return d
  complete := fun d =>
    match d.name with
    | none => .error "propertyName"
    | some name =>
      .ok ⟨d.id.getD 0, name, d.type.getD .string, d.path.getD none, d.target.getD none⟩

/-- The property in JSON. -/
def toJson (p : Property) : Json :=
  .object (
    [("id", .ofNat p.id), ("propertyName", .string p.name), ("dataType", .string p.type.name)] ++
    (p.path.map fun path => ("dotPathOverride", Json.string path)).toList ++
    (p.target.map fun target => ("representedEntityName", Json.string target)).toList)

end Property

/-! ### Entities -/

/-- An entity of which not all fields are known. -/
structure Entity.Draft where
  id : Option Nat
  name : Option String
  isRoot : Option Bool
  properties : Option (List Property)

namespace Entity

/-- How an entity is decoded. -/
def record : Record Draft Entity where
  title := "EntityCfg"
  fields := ["id", "name", "aggregateRoot", "properties"]
  canonical := fun key => key
  blank := ⟨none, none, none, none⟩
  fill := fun p d name r =>
    match name with
    | "id" => do
      let id ← Decoder.once name d.id (Decoder.natural "u64" p r)
      return { d with id }
    | "name" => do
      let name ← Decoder.once name d.name (Decoder.string p r)
      return { d with name }
    | "aggregateRoot" => do
      let isRoot ← Decoder.once name d.isRoot (Decoder.bool p r)
      return { d with isRoot }
    | "properties" => do
      let properties ← Decoder.once name d.properties (Decoder.list Property.record.decode p r)
      return { d with properties }
    | _ => return d
  complete := fun d =>
    match d.name with
    | none => .error "name"
    | some name => .ok ⟨d.id.getD 0, name, d.isRoot.getD false, d.properties.getD []⟩

/-- The entity in JSON. -/
def toJson (e : Entity) : Json :=
  .object [("id", .ofNat e.id), ("name", .string e.name), ("aggregateRoot", .bool e.isRoot),
    ("properties", .array (e.properties.map Property.toJson))]

end Entity

end GuardedSearch
