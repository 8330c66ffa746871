import GuardedSearch.Policy
import GuardedSearch.Proofs.Catalog.Checked

/-!
# What rules ask for

The conditions of a rule become conditions of a filter, which can fail for want of a value. In a
catalog that was checked it cannot: the check of rules has seen to it that every operator has the
values it takes. So the policy of an entity is a plain list, the conditions that the rules in force
ask for one after another.

## Main definitions

* `RuleCondition.asked`, `AccessRule.asked` — what a condition and a rule ask of documents

## Main results

* `Catalog.Obtained.policy_eq` — the policy is what the rules in force ask for
-/

namespace GuardedSearch

/-- The condition of a filter that a condition of a rule asks for: its operator, with its values as
texts. One value is enough for all operators but `oneOf`. -/
def RuleCondition.asked (k : RuleCondition) : Condition :=
  let v := Literal.string (k.values.headD "")
  .one k.property.property <| match k.operator with
    | .eq => .eq v
    | .gt => .gt v
    | .gte => .gte v
    | .lt => .lt v
    | .lte => .lte v
    | .oneOf => .oneOf (k.values.map Literal.string)

/-- The conditions of a filter that a rule asks for, in its order. -/
def AccessRule.asked (r : AccessRule) : List Condition :=
  r.conditions.map RuleCondition.asked

theorem RuleCondition.toCondition_of_hasArity {k : RuleCondition} (rule : String)
    (h : k.hasArity = true) : k.toCondition rule = .ok k.asked := by
  obtain ⟨property, operator, values⟩ := k
  cases values with
  | nil => cases operator <;> simp [hasArity, RuleOperator.isScalar] at h
  | cons v vs => cases operator <;> rfl

theorem Catalog.Obtained.policy_eq {c : Catalog} (h : c.Obtained) (name : String) :
    c.policy name = .ok ((c.activeRules name).flatMap AccessRule.asked) := by
  have hrule : ∀ r ∈ c.activeRules name, r.toConditions = .ok r.asked := by
    intro r hr
    have hr' : r ∈ c.rules := List.mem_of_mem_filter hr
    exact mapM_eq_ok_map fun k hk =>
      RuleCondition.toCondition_of_hasArity r.name (h.hasArity hr' hk)
  simp only [policy, mapM_eq_ok_map hrule, bind_eq_ok_iff, pure_eq_ok_iff]
  exact ⟨_, rfl, List.flatMap_def.symm⟩

/-- A filter is secured with the policy of its name, whatever the client asks for. -/
theorem GuardedFilter.secure_of_policy {c : Catalog} {name : String} {policy : List Condition}
    (h : c.policy name = .ok policy) (user : List Condition) :
    secure c name user = .ok ⟨name, user, policy⟩ := by
  rw [secure, h]
  rfl

end GuardedSearch
