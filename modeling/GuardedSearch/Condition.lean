import GuardedSearch.Literal

/-!
# Filter conditions

A filter is a list of conditions, all of which a document has to meet. A condition on a field says
with any number of operators what the values of the field have to be; conditions combine by "all",
"any" and "not".
-/

namespace GuardedSearch

/-- One demand on the values of a field. -/
inductive Operator where
  | eq (v : Literal)
  | contains (part : String)
  | startsWith (start : String)
  | oneOf (vs : List Literal)
  | gt (v : Literal)
  | gte (v : Literal)
  | lt (v : Literal)
  | lte (v : Literal)
  deriving DecidableEq

/-- The name of an operator. -/
def Operator.name : Operator → String
  | eq _ => "eq"
  | contains _ => "contains"
  | startsWith _ => "startsWith"
  | oneOf _ => "in"
  | gt _ => "gt"
  | gte _ => "gte"
  | lt _ => "lt"
  | lte _ => "lte"

/-- What a client or a rule asks of a document. A document meets `any []`, as it meets `all []`. -/
inductive Condition where
  | all (parts : List Condition)
  | any (parts : List Condition)
  | not (part : Condition)
  | field (name : String) (operators : List Operator)
  deriving Inhabited

namespace Condition

/-- A condition on a field with one operator. -/
def one (name : String) (operator : Operator) : Condition :=
  field name [operator]

mutual

/-- The nesting depth; a condition on a field has depth 1. -/
def depth : Condition → Nat
  | all parts => 1 + depthOfParts parts
  | any parts => 1 + depthOfParts parts
  | not part => 1 + depth part
  | field _ _ => 1

/-- The greatest nesting depth in a list; 0 for the empty list. -/
def depthOfParts : List Condition → Nat
  | [] => 0
  | c :: rest => max (depth c) (depthOfParts rest)

end

end Condition

end GuardedSearch
