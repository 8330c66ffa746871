import GuardedSearch.Json.Decode

/-!
# Access rules

An access rule is aimed at an entity and lists conditions on properties of it or of other entities.
While it is active, a search of the entity finds only documents that meet all of its conditions.
-/

namespace GuardedSearch

/-- How a condition of a rule compares a property with its values. -/
inductive RuleOperator where
  | eq
  | gt
  | gte
  | lt
  | lte
  | oneOf
  deriving DecidableEq, Repr

namespace RuleOperator

/-- The name of an operator. -/
def name : RuleOperator → String
  | eq => "EQ"
  | gt => "GT"
  | gte => "GTE"
  | lt => "LT"
  | lte => "LTE"
  | oneOf => "IN"

/-- Whether the operator takes exactly one value. -/
def isScalar : RuleOperator → Bool
  | oneOf => false
  | _ => true

/-- The operator of a name in upper or lower case. -/
def ofName? : String → Option RuleOperator
  | "EQ" | "eq" => some eq
  | "GT" | "gt" => some gt
  | "GTE" | "gte" => some gte
  | "LT" | "lt" => some lt
  | "LTE" | "lte" => some lte
  | "IN" | "in" => some oneOf
  | _ => none

/-- The names that operators are decoded from. -/
def names : List String :=
  ["EQ", "eq", "GT", "gt", "GTE", "gte", "LT", "lt", "LTE", "lte", "IN", "in"]

/-- The decoder of an operator by its name. -/
def decoder : Decoder RuleOperator :=
  Decoder.variant ofName? names

end RuleOperator

/-- A property, named by the entity that owns it and its own name. -/
structure PropertyReference where
  entity : String
  property : String
  deriving DecidableEq, Repr

/-- A condition of a rule. -/
structure RuleCondition where
  property : PropertyReference
  operator : RuleOperator
  values : List String
  deriving DecidableEq, Repr

/-- An access rule. -/
structure AccessRule where
  id : Nat
  name : String
  active : Bool
  target : String
  conditions : List RuleCondition
  deriving DecidableEq, Repr

/-- Whether the condition has as many values as its operator takes. -/
def RuleCondition.hasArity (c : RuleCondition) : Bool :=
  if c.operator.isScalar then c.values.length == 1 else !c.values.isEmpty

end GuardedSearch
