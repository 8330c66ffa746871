import GuardedSearch.Condition

/-!
# Writing conditions

A condition is written as an object with the attributes that it needs. An object has each attribute
once, so of several operators of one name on a field the last one is written.
-/

namespace GuardedSearch

/-- The operand of an operator in JSON. -/
def Operator.operandJson : Operator → Json
  | eq v | gt v | gte v | lt v | lte v => v.toJson
  | contains s | startsWith s => .string s
  | oneOf vs => .array (vs.map Literal.toJson)

namespace Condition

/-- The names of operators in the order in which they are written. -/
def operatorNames : List String :=
  ["eq", "contains", "startsWith", "in", "gt", "lt", "gte", "lte"]

/-- The attribute that stands for the operators of one name: the last of them. -/
def attribute? (operators : List Operator) (name : String) : Option (String × Json) :=
  (operators.reverse.find? fun operator => operator.name == name).map fun operator =>
    (name, operator.operandJson)

mutual

/-- A condition in JSON. -/
def toJson : Condition → Json
  | all parts => .object [("and", .array (partsToJson parts))]
  | any parts => .object [("or", .array (partsToJson parts))]
  | not part => .object [("not", toJson part)]
  | field name operators =>
    .object (("field", .string name) :: operatorNames.filterMap (attribute? operators))

/-- A list of conditions in JSON. -/
def partsToJson : List Condition → List Json
  | [] => []
  | c :: rest => toJson c :: partsToJson rest

end

theorem partsToJson_eq_map (parts : List Condition) : partsToJson parts = parts.map toJson := by
  induction parts with
  | nil => rfl
  | cons c rest ih => simp [partsToJson, ih]

end Condition

end GuardedSearch
