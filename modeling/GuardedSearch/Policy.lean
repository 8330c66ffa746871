import GuardedSearch.Catalog.Basic
import GuardedSearch.Predicate.OfCondition

/-!
# Access policies

The active rules aimed at an entity are its policy. Each condition of a rule becomes a condition of
a filter, with the values as texts, and is appended to the filter of a client; so rules resolve
names and coerce values in the same way as clients do, and can only narrow what a client finds.
-/

namespace GuardedSearch

/-- The operator of a filter that a condition of a rule stands for. -/
def RuleCondition.filterOperator (rule : String) (c : RuleCondition) :
    Except SearchError Operator :=
  match c.operator, c.values with
  | .oneOf, values => .ok (.oneOf (values.map Literal.string))
  | operator, [] => .error (.configuration (.ruleWithoutValue rule operator))
  | .eq, v :: _ => .ok (.eq (.string v))
  | .gt, v :: _ => .ok (.gt (.string v))
  | .gte, v :: _ => .ok (.gte (.string v))
  | .lt, v :: _ => .ok (.lt (.string v))
  | .lte, v :: _ => .ok (.lte (.string v))

/-- The condition of a filter that a condition of a rule stands for. -/
def RuleCondition.toCondition (rule : String) (c : RuleCondition) :
    Except SearchError Condition := do
  return .one c.property.property (← c.filterOperator rule)

/-- The conditions of a filter that a rule stands for. -/
def AccessRule.toConditions (r : AccessRule) : Except SearchError (List Condition) :=
  r.conditions.mapM (RuleCondition.toCondition r.name)

/-- The policy of an entity: the conditions of its active rules in order. -/
def Catalog.policy (c : Catalog) (entity : String) : Except SearchError (List Condition) := do
  let conditions ← (c.activeRules entity).mapM AccessRule.toConditions
  return conditions.flatten

/-- The filter of a client together with the policy of the entity that it is for. -/
structure GuardedFilter where
  entity : String
  user : List Condition
  policy : List Condition

namespace GuardedFilter

/-- The filter of a client, secured for an entity. -/
def secure (c : Catalog) (entity : String) (user : List Condition) :
    Except SearchError GuardedFilter := do
  let policy ← c.policy entity
  return ⟨entity, user, policy⟩

/-- All conditions: those of the client, then those of the policy. -/
def conditions (f : GuardedFilter) : List Condition :=
  f.user ++ f.policy

/-- The predicate of a secured filter. It may only be used for the entity it was secured for. -/
def predicate (s : Scope) (f : GuardedFilter) : Except SearchError Predicate :=
  if Text.sameIgnoringAsciiCase f.entity s.entity then Predicate.ofFilter s f.conditions
  else .error (.invalidRequest (.otherEntity f.entity s.entity))

end GuardedFilter

end GuardedSearch
