import GuardedSearch.AccessRule

/-!
# Access rules in JSON

A rule that does not say that it is active is not. The values of a condition may also be given as
`conditionValues`.
-/

namespace GuardedSearch

/-! ### Property keys -/

/-- A property key of which not all fields are known. -/
structure PropertyReference.Draft where
  entity : Option String
  property : Option String

namespace PropertyReference

/-- How a property key is decoded. -/
def record : Record Draft PropertyReference where
  title := "PropertyKey"
  fields := ["entity", "property"]
  canonical := fun key => key
  blank := ⟨none, none⟩
  fill := fun p d name r =>
    match name with
    | "entity" => do
      let entity ← Decoder.once name d.entity (Decoder.string p r)
      return { d with entity }
    | "property" => do
      let property ← Decoder.once name d.property (Decoder.string p r)
      return { d with property }
    | _ => return d
  complete := fun d =>
    match d.entity, d.property with
    | none, _ => .error "entity"
    | _, none => .error "property"
    | some entity, some property => .ok ⟨entity, property⟩

/-- The property key in JSON. -/
def toJson (k : PropertyReference) : Json :=
  .object [("entity", .string k.entity), ("property", .string k.property)]

end PropertyReference

/-! ### Conditions -/

/-- A condition of a rule of which not all fields are known. -/
structure RuleCondition.Draft where
  property : Option PropertyReference
  operator : Option RuleOperator
  values : Option (List String)

namespace RuleCondition

/-- How a condition of a rule is decoded. -/
def record : Record Draft RuleCondition where
  title := "DacConditionCfg"
  fields := ["property", "operator", "values"]
  canonical := fun key => if key = "conditionValues" then "values" else key
  blank := ⟨none, none, none⟩
  fill := fun p d name r =>
    match name with
    | "property" => do
      let property ← Decoder.once name d.property (PropertyReference.record.decode p r)
      return { d with property }
    | "operator" => do
      let operator ← Decoder.once name d.operator (RuleOperator.decoder p r)
      return { d with operator }
    | "values" => do
      let values ← Decoder.once name d.values (Decoder.list Decoder.string p r)
      return { d with values }
    | _ => return d
  complete := fun d =>
    match d.property, d.operator with
    | none, _ => .error "property"
    | _, none => .error "operator"
    | some property, some operator => .ok ⟨property, operator, d.values.getD []⟩

/-- The condition of a rule in JSON. -/
def toJson (c : RuleCondition) : Json :=
  .object [("property", c.property.toJson), ("operator", .string c.operator.name),
    ("values", .ofStrings c.values)]

end RuleCondition

/-! ### Rules -/

/-- A rule of which not all fields are known. -/
structure AccessRule.Draft where
  id : Option Nat
  name : Option String
  active : Option Bool
  target : Option String
  conditions : Option (List RuleCondition)

namespace AccessRule

/-- How a rule is decoded. -/
def record : Record Draft AccessRule where
  title := "DacCfg"
  fields := ["id", "name", "active", "targetEntity", "conditions"]
  canonical := fun key => key
  blank := ⟨none, none, none, none, none⟩
  fill := fun p d name r =>
    match name with
    | "id" => do
      let id ← Decoder.once name d.id (Decoder.natural "u64" p r)
      return { d with id }
    | "name" => do
      let ruleName ← Decoder.once name d.name (Decoder.string p r)
      return { d with name := ruleName }
    | "active" => do
      let active ← Decoder.once name d.active (Decoder.bool p r)
      return { d with active }
    | "targetEntity" => do
      let target ← Decoder.once name d.target (Decoder.string p r)
      return { d with target }
    | "conditions" => do
      let conditions ← Decoder.once name d.conditions
        (Decoder.list RuleCondition.record.decode p r)
      return { d with conditions }
    | _ => return d
  complete := fun d =>
    match d.name, d.target with
    | none, _ => .error "name"
    | _, none => .error "targetEntity"
    | some name, some target =>
      .ok ⟨d.id.getD 0, name, d.active.getD false, target, d.conditions.getD []⟩

/-- The rule in JSON. -/
def toJson (r : AccessRule) : Json :=
  .object [("id", .ofNat r.id), ("name", .string r.name), ("active", .bool r.active),
    ("targetEntity", .string r.target), ("conditions", .array (r.conditions.map (·.toJson)))]

end AccessRule

end GuardedSearch
