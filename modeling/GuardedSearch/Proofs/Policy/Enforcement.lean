import GuardedSearch.Proofs.Catalog.Naming
import GuardedSearch.Proofs.Policy.Restriction

/-!
# What a rule is enforced on

A condition of a rule names a property by its owner and its own name, and the check of rules looks
it up there. The condition of a filter that it becomes has only the name, which is looked up again,
from the entity that is searched. Whether both lookups end at the same property is for the entities
in between to decide: a property of the root hides all others of its name, and a bridge those behind
later bridges. Then the rule is in force, but on a property that nobody had in mind.

If both end at the same property, the rule is enforced on it and on nothing else: either the test
is at its path, or there is no path and nothing is found at all.

## Main results

* `GuardedFilter.exists_error` — one condition without a predicate is enough to find nothing
* `rule_tests_by_name` — what a condition of a rule tests
* `rule_tests_shadowing_property` — a rule that tests a property it does not name
-/

namespace GuardedSearch

/-! ### Secured filters -/

variable {c : Catalog} {root : Entity} {name : String}

theorem GuardedFilter.asked_mem_policy (hc : c.Obtained) {r : AccessRule}
    (hr : r ∈ c.activeRules name) {k : RuleCondition} (hk : k ∈ r.conditions)
    {user : List Condition} {f : GuardedFilter} (hf : secure c name user = .ok f) :
    k.asked ∈ f.policy := by
  rw [secure, hc.policy_eq] at hf
  cases hf
  exact List.mem_flatMap.mpr ⟨r, hr, List.mem_map.mpr ⟨k, hk, rfl⟩⟩

/-- If one condition of the policy has no predicate, the filter has none. -/
theorem GuardedFilter.exists_error {s : Scope} {f : GuardedFilter} {q : Condition}
    (hq : q ∈ f.policy) (h : ∀ g, Predicate.ofCondition s q ≠ .ok g) :
    ∃ e, f.predicate s = .error e := by
  refine exists_eq_error fun p hp => ?_
  obtain ⟨own, guards, -, -, hguards⟩ := predicate_eq_ok hp (List.ne_nil_of_mem hq)
  obtain ⟨g, hg⟩ := exists_mapM_eq_ok_iff.mp ⟨guards, hguards⟩ q hq
  exact h g hg

/-! ### Tests -/

namespace Predicate

variable {s : Scope} {k : RuleCondition} {g : Predicate}

/-- Where a condition of a rule tests values is for its name alone to decide, whoever the owner. -/
theorem tests_by_name_of_asked (hc : s.catalog.metadata.Consistent)
    (hmem : root ∈ s.catalog.entities) (hroot : s.root = .ok root) (hk : k.hasArity = true)
    (hg : ofCondition s k.asked = .ok g) :
    (∃ x paths, s.catalog.StandsFor root k.property.property x ∧
      Catalog.pathsFrom root x = .ok paths ∧ g.TestsAt paths.exact) ∨
    ((∀ x, ¬ s.catalog.StandsFor root k.property.property x) ∧
      '.' ∈ k.property.property.toList ∧ g.TestsAt k.property.property) := by
  obtain ⟨root', hroot', t, ht, htest⟩ := testsAt_of_asked hk hg
  rw [hroot] at hroot'
  cases hroot'
  rcases (Catalog.target_eq_ok_iff hc hmem).mp ht with
    ⟨x, paths, hx, hpaths, rfl⟩ | ⟨hnone, hdot, rfl⟩
  · exact .inl ⟨x, paths, hx, hpaths, htest⟩
  · rw [PathPair.exact_ofPath] at htest
    exact .inr ⟨hnone, hdot, htest⟩

/-- If its name stands for a property, a condition of a rule tests the values of that property. -/
theorem testsAt_of_standsFor (hc : s.catalog.metadata.Consistent)
    (hmem : root ∈ s.catalog.entities) (hroot : s.root = .ok root) (hk : k.hasArity = true)
    (hg : ofCondition s k.asked = .ok g) {p : OwnedProperty}
    (hp : s.catalog.StandsFor root k.property.property p) :
    ∃ paths, Catalog.pathsFrom root p = .ok paths ∧ g.TestsAt paths.exact := by
  rcases tests_by_name_of_asked hc hmem hroot hk hg with
    ⟨x, paths, hx, hpaths, htest⟩ | ⟨hnone, -⟩
  · rw [hx.unique hc hmem hp] at hpaths
    exact ⟨paths, hpaths, htest⟩
  · exact absurd hp (hnone p)

end Predicate

/-- **What a rule is enforced on.** A condition of a rule in force names a property `p`. If it has a
predicate in a scope, that tests the values of the property that the mere name stands for there, or
else those at the name as a path. If the name stands for `p`, as it does if the root owns `p`, the
test is at the path of `p`; and if `p` has no path then, the whole filter has no predicate. Neither
has it one if the name stands for nothing and is no path. -/
theorem rule_tests_by_name (hc : c.Obtained) {s : Scope}
    (hs : s.catalog = c) (hroot : s.root = .ok root) {r : AccessRule}
    (hr : r ∈ c.activeRules name) {k : RuleCondition} (hk : k ∈ r.conditions) :
    ∃ (p : OwnedProperty) (q : Condition),
      c.entity? k.property.entity = some p.owner ∧
      p.owner.property? k.property.property = some p.property ∧
      k.toCondition r.name = .ok q ∧
      (∀ g, Predicate.ofCondition s q = .ok g →
        (∃ x paths, c.StandsFor root k.property.property x ∧
          Catalog.pathsFrom root x = .ok paths ∧ g.TestsAt paths.exact) ∨
        ((∀ x, ¬ c.StandsFor root k.property.property x) ∧
          '.' ∈ k.property.property.toList ∧ g.TestsAt k.property.property)) ∧
      (p.owner = root → c.StandsFor root k.property.property p) ∧
      (c.StandsFor root k.property.property p →
        (∀ g, Predicate.ofCondition s q = .ok g →
          ∃ paths, Catalog.pathsFrom root p = .ok paths ∧ g.TestsAt paths.exact) ∧
        ((∀ paths, Catalog.pathsFrom root p ≠ .ok paths) →
          ∀ user f, GuardedFilter.secure c name user = .ok f → ∃ e, f.predicate s = .error e)) ∧
      ((∀ x, ¬ c.StandsFor root k.property.property x) → '.' ∉ k.property.property.toList →
        ∀ user f, GuardedFilter.secure c name user = .ok f → ∃ e, f.predicate s = .error e) := by
  subst hs
  have hconsistent := hc.consistent
  have hmem := Scope.root_mem hconsistent hroot
  have hrule : r ∈ s.catalog.rules := List.mem_of_mem_filter hr
  have harity := hc.hasArity hrule hk
  obtain ⟨p, howner, hp⟩ := hc.exists_property hrule hk
  have hfails : (∀ g, Predicate.ofCondition s k.asked ≠ .ok g) → ∀ user f,
      GuardedFilter.secure s.catalog name user = .ok f → ∃ e, f.predicate s = .error e :=
    fun hnone user f hf =>
      GuardedFilter.exists_error (GuardedFilter.asked_mem_policy hc hr hk hf) hnone
  refine ⟨p, k.asked, howner, hp, RuleCondition.toCondition_of_hasArity r.name harity,
    fun g hg => Predicate.tests_by_name_of_asked hconsistent hmem hroot harity hg, ?_,
    fun hstands => ⟨fun g hg => ?_, fun hpath => hfails fun g hg => ?_⟩,
    fun hnone hdot => hfails fun g hg => ?_⟩
  · rintro rfl
    obtain ⟨hproperty, hname⟩ := (Catalog.property?_eq_some_iff hconsistent hmem).mp hp
    exact .own hproperty hname
  · exact Predicate.testsAt_of_standsFor hconsistent hmem hroot harity hg hstands
  · obtain ⟨paths, hpaths, -⟩ :=
      Predicate.testsAt_of_standsFor hconsistent hmem hroot harity hg hstands
    exact hpath paths hpaths
  · rcases Predicate.tests_by_name_of_asked hconsistent hmem hroot harity hg with
      ⟨x, -, hx, -⟩ | ⟨-, hpath, -⟩
    · exact hnone x hx
    · exact hdot hpath

/-! ### Projects

The rule for projects names the owner of their tasks, whatever properties projects have. -/

section

variable {properties : List Property}

/-- Seen from projects with a bridge to tasks, the owners of tasks have a path. -/
theorem pathsFrom_project (hc : Catalog.check (projectMetadata properties) = .ok ())
    (hb : Property.bridge 3 "tasks" "Task" ∈ properties) :
    Catalog.pathsFrom (projectEntity properties) ⟨taskEntity, .field 1 "owner" .string⟩ =
      .ok (.ofPath "tasks.owner") := by
  have hconsistent := Catalog.consistent_of_build (build_projectMetadata properties hc)
  have hbridge : Property.bridge 3 "tasks" "Task" ∈ (projectEntity properties).bridges :=
    List.mem_filter.mpr ⟨hb, rfl⟩
  have hreached : (projectCatalog properties).reached? (.bridge 3 "tasks" "Task") =
      some taskEntity := rfl
  have hne : taskEntity ≠ projectEntity properties := by
    intro h
    have hname : "Task" = "Project" := congrArg Entity.name h
    exact absurd hname (by decide)
  rw [Catalog.pathsFrom, Catalog.pathFrom_of_reached hconsistent (projectEntity_mem properties)
    hbridge hreached hne, if_pos (by decide)]
  rfl

/-- The rule becomes a test of the texts that the name of the owner stands for. -/
theorem ofCondition_project (hc : Catalog.check (projectMetadata properties) = .ok ())
    {x : OwnedProperty}
    (hx : (projectCatalog properties).StandsFor (projectEntity properties) "owner" x)
    (htype : x.property.type = .string) {path : String}
    (hpath : Catalog.pathsFrom (projectEntity properties) x = .ok (.ofPath path)) :
    Predicate.ofCondition ⟨projectCatalog properties, "Project", 1⟩
        (.one "owner" (.eq (.string "ann"))) = .ok (.term path (.string "ann")) := by
  have hconsistent := Catalog.consistent_of_build (build_projectMetadata properties hc)
  have htarget : (projectCatalog properties).target (projectEntity properties) "owner" =
      .ok ⟨.ofPath path, some .string⟩ :=
    (Catalog.target_eq_ok_iff hconsistent (projectEntity_mem properties)).mpr
      (.inl ⟨x, _, hx, hpath, by rw [htype]⟩)
  have hpredicate : Target.predicate ⟨.ofPath path, some .string⟩ "owner" [.eq (.string "ann")] =
      .ok (.term (PathPair.ofPath path).exact (.string "ann")) := rfl
  rw [PathPair.exact_ofPath] at hpredicate
  exact Predicate.ofCondition_one_eq_ok_iff.mpr
    ⟨Nat.le_refl 1, _, root_project hc, _, htarget, hpredicate⟩

end

/-- Seen from projects that have no owner of their own, the rule tests the owners of tasks. -/
theorem rule_tests_tasks_owner :
    let project := projectEntity [.bridge 3 "tasks" "Task"]
    let c := projectCatalog project.properties
    let s : Scope := ⟨c, "Project", 1⟩
    Catalog.build (projectMetadata project.properties) = .ok c ∧ s.root = .ok project ∧
      c.policy "Project" = .ok [.one "owner" (.eq (.string "ann"))] ∧
      Catalog.pathsFrom project ⟨taskEntity, .field 1 "owner" .string⟩ =
        .ok (.ofPath "tasks.owner") ∧
      ∃ g, Predicate.ofCondition s (.one "owner" (.eq (.string "ann"))) = .ok g ∧
        g.TestsAt "tasks.owner" := by
  intro project c s
  have hcheck : Catalog.check (projectMetadata project.properties) = .ok () := by decide +kernel
  have hbuild := build_projectMetadata project.properties hcheck
  have hroot : s.root = .ok project := root_project hcheck
  have hpaths := pathsFrom_project hcheck (List.mem_singleton_self _)
  have hstands : c.StandsFor project "owner" ⟨taskEntity, .field 1 "owner" .string⟩ :=
    (Catalog.find?_eq_some_iff_standsFor (Catalog.consistent_of_build hbuild)
      (projectEntity_mem project.properties)).mp (by decide +kernel)
  have hg := ofCondition_project hcheck hstands rfl hpaths
  refine ⟨hbuild, hroot, rfl, hpaths, _, hg, ?_⟩
  have hr : ⟨2, "Projects with a task of Ann's", true, "Project",
      [⟨⟨"Task", "owner"⟩, .eq, ["ann"]⟩]⟩ ∈ c.activeRules "Project" := by decide +kernel
  obtain ⟨⟨owner, p⟩, q, howner, hp, hq, -, -, hnamed, -⟩ :=
    rule_tests_by_name (.built hbuild) rfl hroot hr List.mem_cons_self
  cases howner
  cases hp
  cases hq
  obtain ⟨paths, hpaths', htest⟩ := (hnamed hstands).1 _ hg
  obtain rfl : .ofPath "tasks.owner" = paths := Except.ok.inj (hpaths.symm.trans hpaths')
  rwa [PathPair.exact_ofPath] at htest

/-- **A rule on another property.** Projects with an owner of their own hide the owners of tasks.
The rule is enforced on projects' owners then, though the property that it names has a path. -/
theorem rule_tests_shadowing_property :
    let project := projectEntity [.field 2 "owner" .string, .bridge 3 "tasks" "Task"]
    let c := projectCatalog project.properties
    let s : Scope := ⟨c, "Project", 1⟩
    Catalog.build (projectMetadata project.properties) = .ok c ∧ s.root = .ok project ∧
      c.policy "Project" = .ok [.one "owner" (.eq (.string "ann"))] ∧
      Catalog.pathsFrom project ⟨taskEntity, .field 1 "owner" .string⟩ =
        .ok (.ofPath "tasks.owner") ∧
      ∃ g, Predicate.ofCondition s (.one "owner" (.eq (.string "ann"))) = .ok g ∧
        g.TestsAt "owner" ∧ ¬ g.TestsAt "tasks.owner" := by
  intro project c s
  have hcheck : Catalog.check (projectMetadata project.properties) = .ok () := by decide +kernel
  have hbuild := build_projectMetadata project.properties hcheck
  have hpaths := pathsFrom_project hcheck (List.mem_cons_of_mem _ (List.mem_singleton_self _))
  have hstands : c.StandsFor project "owner" ⟨project, .field 2 "owner" .string⟩ :=
    .own List.mem_cons_self (by decide)
  have hg := ofCondition_project hcheck hstands rfl (Catalog.pathsFrom_self _ _)
  have htest : (Predicate.term "owner" (.string "ann")).TestsAt "owner" := .term _
  exact ⟨hbuild, root_project hcheck, rfl, hpaths, _, hg, htest, fun hother =>
    absurd (htest.path_unique hother) (by decide)⟩

end GuardedSearch
