import GuardedSearch.Proofs.Policy.Asked
import Mathlib.Data.List.Flatten

/-!
# The policy of an entity and the spellings of its name

An entity answers to every spelling with the lower-case form of its name, and a rule may be aimed at
it by any of them. Which rules are in force is decided by the finer folding of ASCII: those whose
target is spelled as the request spells the entity. So the policy that a filter carries never holds
a condition of a rule for another entity, but it may lack conditions of the entity's own rules.

## Main definitions

* `Catalog.rulesFor` — the active rules aimed at an entity, by whatever spelling

## Main results

* `secure_eq_rulesFor_filter` — it is a part of what the entity's rules ask for, and all of it
  exactly if each of them that asks for anything is spelled as the request spells the entity
* `secure_kelvinSign_policy_eq_nil` — a spelling under which an entity is searched without its rules
-/

namespace GuardedSearch

/-! ### Leaving out rules -/

theorem asked_eq_nil_iff {r : AccessRule} : r.asked = [] ↔ r.conditions = [] :=
  List.map_eq_nil_iff

/-- Leaving out rules leaves out nothing exactly if those left out ask for nothing. -/
theorem flatMap_asked_filter_eq_iff {p : AccessRule → Bool} {rules : List AccessRule} :
    (rules.filter p).flatMap AccessRule.asked = rules.flatMap AccessRule.asked ↔
      ∀ r ∈ rules, r.conditions ≠ [] → p r = true := by
  induction rules with
  | nil => simp
  | cons r rest ih =>
    rw [List.forall_mem_cons, ← ih, List.flatMap_cons]
    cases hr : p r with
    | true => simp [hr]
    | false =>
      -- what is left of the rest is never longer than the rest, so nothing can make up for `r`
      have hle : ((rest.filter p).flatMap AccessRule.asked).length
          ≤ (rest.flatMap AccessRule.asked).length :=
        (List.filter_sublist.flatMap _).length_le
      rw [List.filter_cons_of_neg (by simp [hr])]
      constructor
      · intro h
        have hlen := congrArg List.length h
        rw [List.length_append] at hlen
        have hnil : r.asked = [] := List.length_eq_zero_iff.mp (by omega)
        rw [hnil, List.nil_append] at h
        exact ⟨fun hne => absurd (asked_eq_nil_iff.mp hnil) hne, h⟩
      · rintro ⟨hempty, h⟩
        have hnil : r.asked = [] := asked_eq_nil_iff.mpr (by simpa using hempty)
        rw [hnil, List.nil_append, h]

/-! ### Spellings -/

namespace Catalog

/-- The active rules aimed at an entity, by whatever spelling of its name, in their order. -/
def rulesFor (c : Catalog) (e : Entity) : List AccessRule :=
  c.rules.filter fun r => r.active && c.entity? r.target == some e

/-- The rules in force for a spelling are those rules of its entity whose target is spelled so. -/
theorem activeRules_eq_rulesFor_filter {c : Catalog} {name : String} {e : Entity}
    (h : c.entity? name = some e) :
    c.activeRules name =
      (c.rulesFor e).filter fun r => Text.sameIgnoringAsciiCase r.target name := by
  rw [activeRules, rulesFor, List.filter_filter]
  refine List.filter_congr fun r _ => ?_
  cases hsame : Text.sameIgnoringAsciiCase r.target name with
  | false => simp
  | true =>
    have htarget : c.entity? r.target = some e :=
      (c.entity?_eq_of_sameIgnoringAsciiCase hsame).trans h
    simp [htarget]

end Catalog

/-! ### Secured filters -/

variable {c : Catalog} {name : String} {e : Entity}

/-- **What a secured filter carries.** Securing a filter under an accepted spelling always succeeds,
leaves the client's conditions alone and appends what some of the entity's rules ask for, in their
order, and nothing else. It appends all that they ask for exactly if each rule that asks for
anything has its target spelled as the request spells the entity, up to ASCII case. -/
theorem secure_eq_rulesFor_filter (hc : c.Obtained) (he : c.entity? name = some e)
    (user : List Condition) :
    ∃ f, GuardedFilter.secure c name user = .ok f ∧ f.conditions = user ++ f.policy ∧
      f.policy = ((c.rulesFor e).filter fun r =>
        Text.sameIgnoringAsciiCase r.target name).flatMap AccessRule.asked ∧
      (f.policy = (c.rulesFor e).flatMap AccessRule.asked ↔
        ∀ r ∈ c.rulesFor e, r.conditions ≠ [] →
          Text.sameIgnoringAsciiCase r.target name = true) := by
  have hpolicy := hc.policy_eq name
  rw [Catalog.activeRules_eq_rulesFor_filter he] at hpolicy
  exact ⟨⟨name, user, _⟩, GuardedFilter.secure_of_policy hpolicy user, rfl, rfl,
    flatMap_asked_filter_eq_iff⟩

/-- Under a spelling that differs in ASCII case only, nothing is missing. -/
theorem secure_upperCase_policy_eq :
    Catalog.build taskMetadata = .ok taskCatalog ∧ taskCatalog.entity? "TASK" = some taskEntity ∧
      ∃ f, GuardedFilter.secure taskCatalog "TASK" [] = .ok f ∧
        f.policy = [.one "owner" (.eq (.string "ann"))] := by
  have he : taskCatalog.entity? "TASK" = some taskEntity := by decide +kernel
  obtain ⟨f, hf, -, -, hiff⟩ := secure_eq_rulesFor_filter (.built build_taskMetadata) he []
  exact ⟨build_taskMetadata, he, f, hf, hiff.mpr (by decide +kernel)⟩

/-- **A spelling without rules.** The Kelvin sign lowers to `k`, so that it spells the name of the
entity; but no rule is aimed at the name so spelled, and the filter is secured with nothing. -/
theorem secure_kelvinSign_policy_eq_nil :
    Catalog.build taskMetadata = .ok taskCatalog ∧
      taskCatalog.entity? "Tas\u212A" = some taskEntity ∧
      (taskCatalog.rulesFor taskEntity).flatMap AccessRule.asked =
        [.one "owner" (.eq (.string "ann"))] ∧
      GuardedFilter.secure taskCatalog "Tas\u212A" [] = .ok ⟨"Tas\u212A", [], []⟩ :=
  ⟨build_taskMetadata, by decide +kernel, rfl, rfl⟩

end GuardedSearch
