import GuardedSearch.Proofs.Condition.OneOperator
import GuardedSearch.Proofs.Policy.Asked

/-!
# What a rule restricts

The way from a rule to a set of rows is long: a condition of a rule becomes a condition of a filter,
that a predicate, and the predicate a set. Had the condition no value or a list without values, it
could arrive there as a set of all rows, and the rule would be in force without any effect. The
check of rules rules that out once, and it carries through: what arrives is a test of the values at
a path, and it is one of the clauses that a document has to meet.

## Main results

* `RuleCondition.exists_asked_eq` — rules ask for comparisons
* `Predicate.testsAt_of_asked`, `Catalog.Obtained.testsAt_of_mem_policy` — what a condition of a
  rule becomes
* `GuardedFilter.predicate_eq_ok` — each condition has its own clause in a secured filter
* `policy_restricts` — every condition of a policy hides the documents without values
* `mem_matching_without_value_at_path` — a document that has its value elsewhere
-/

namespace GuardedSearch

/-! ### Conditions of rules -/

/-- With the values that its operator takes, a condition of a rule asks for a comparison. -/
theorem RuleCondition.exists_asked_eq {k : RuleCondition} (h : k.hasArity = true) :
    ∃ op : Operator, k.asked = .one k.property.property op ∧ op.Compares := by
  obtain ⟨property, operator, values⟩ := k
  cases operator with
  | oneOf =>
    have hvalues : values.map Literal.string ≠ [] := by
      simpa [hasArity, RuleOperator.isScalar] using h
    exact ⟨.oneOf (values.map Literal.string), rfl, hvalues⟩
  | _ => exact ⟨_, rfl, trivial⟩

/-- **A condition of a rule becomes a test**, at the path that the name of its property stands for
where it is used. -/
theorem Predicate.testsAt_of_asked {k : RuleCondition} (h : k.hasArity = true) {s : Scope}
    {p : Predicate} (hp : ofCondition s k.asked = .ok p) :
    ∃ root, s.root = .ok root ∧
      ∃ t, s.catalog.target root k.property.property = .ok t ∧ p.TestsAt t.paths.exact := by
  obtain ⟨op, hasked, hop⟩ := RuleCondition.exists_asked_eq h
  rw [hasked] at hp
  exact testsAt_of_ofCondition hop hp

variable {c : Catalog} {name : String}

theorem Catalog.Obtained.policy_eq_map_asked (hc : c.Obtained) (name : String) :
    c.policy name =
      .ok (((c.activeRules name).flatMap AccessRule.conditions).map RuleCondition.asked) := by
  rw [hc.policy_eq, List.map_flatMap]
  rfl

/-- Every condition of a policy becomes a test. -/
theorem Catalog.Obtained.testsAt_of_mem_policy (hc : c.Obtained) {policy : List Condition}
    (hpolicy : c.policy name = .ok policy) {q : Condition} (hq : q ∈ policy) {s : Scope}
    {p : Predicate} (hp : Predicate.ofCondition s q = .ok p) : ∃ path, p.TestsAt path := by
  rw [hc.policy_eq_map_asked] at hpolicy
  cases hpolicy
  obtain ⟨k, hk, rfl⟩ := List.mem_map.mp hq
  obtain ⟨r, hr, hkr⟩ := List.mem_flatMap.mp hk
  have harity : k.hasArity = true := hc.hasArity (List.mem_of_mem_filter hr) hkr
  obtain ⟨root, -, t, -, htest⟩ := Predicate.testsAt_of_asked harity hp
  exact ⟨t.paths.exact, htest⟩

/-! ### Secured filters -/

/-- The predicate of a secured filter asks for a clause for each condition: those of the client's
conditions first, then those of the policy. -/
theorem GuardedFilter.predicate_eq_ok {s : Scope} {f : GuardedFilter} {p : Predicate}
    (h : f.predicate s = .ok p) (hne : f.policy ≠ []) :
    ∃ own guards, p = .all (own ++ guards) ∧
      f.user.mapM (Predicate.ofCondition s) = .ok own ∧
      f.policy.mapM (Predicate.ofCondition s) = .ok guards := by
  rw [predicate] at h
  split at h
  case isFalse => cases h
  case isTrue =>
    rcases Predicate.ofFilter_eq_ok_iff.mp h with ⟨hnil, -⟩ | ⟨-, root, hroot, clauses, hnodes, rfl⟩
    · exact absurd (List.append_eq_nil_iff.mp hnil).2 hne
    · rw [conditions, Predicate.ofNodes_eq_mapM, ← Predicate.ofCondition_of_root hroot,
        List.mapM_append] at hnodes
      simp only [bind_eq_ok_iff, pure_eq_ok_iff] at hnodes
      obtain ⟨own, hown, guards, hguards, rfl⟩ := hnodes
      exact ⟨own, guards, rfl, hown, hguards⟩

/-- What a conjunction matches is accepted by each of its clauses. -/
theorem Predicate.mem_matching_of_mem_all {clauses : List Predicate} {g : Predicate}
    (hg : g ∈ clauses) {docs : List Document} {d : Document}
    (hd : d ∈ (all clauses).matching docs) : d ∈ g.matching docs := by
  rw [matching_eq_filter, List.mem_filter, accepts_all, List.all_eq_true] at hd
  rw [matching_eq_filter, List.mem_filter]
  exact ⟨hd.1, hd.2 g hg⟩

/-- **Rules restrict.** The policy of a name is there whatever the name, with one condition for each
condition of the rules in force. Wherever such a condition has a predicate, that is a test of the
values at a path, and hides the documents without values there. In the predicate of a secured filter
each of these tests is a clause of its own, beside those of the client, that every match meets. -/
theorem policy_restricts (hc : c.Obtained) (name : String) :
    ∃ policy, c.policy name = .ok policy ∧
      policy = ((c.activeRules name).flatMap AccessRule.conditions).map RuleCondition.asked ∧
      (∀ k ∈ policy, ∀ (s : Scope) (p : Predicate), Predicate.ofCondition s k = .ok p →
        ∃ path, p.TestsAt path ∧
          ∀ docs, ∀ d ∈ p.matching docs, ¬ d.LacksValueAt path) ∧
      ∀ user, GuardedFilter.secure c name user = .ok ⟨name, user, policy⟩ ∧
        ∀ (s : Scope) (p : Predicate), policy ≠ [] →
          GuardedFilter.predicate s ⟨name, user, policy⟩ = .ok p →
          ∃ own guards, p = .all (own ++ guards) ∧
            user.mapM (Predicate.ofCondition s) = .ok own ∧
            policy.mapM (Predicate.ofCondition s) = .ok guards ∧
            ∀ docs, ∀ d ∈ p.matching docs, ∀ g ∈ guards,
              ∃ path, g.TestsAt path ∧ ¬ d.LacksValueAt path := by
  have hpolicy := hc.policy_eq_map_asked name
  refine ⟨_, hpolicy, rfl, fun k hk s p hp => ?_,
    fun user => ⟨GuardedFilter.secure_of_policy hpolicy user, fun s p hne hp => ?_⟩⟩
  · obtain ⟨path, htest⟩ := hc.testsAt_of_mem_policy hpolicy hk hp
    exact ⟨path, htest, fun docs d hd => htest.not_lacksValueAt hd⟩
  · obtain ⟨own, guards, rfl, hown, hguards⟩ := GuardedFilter.predicate_eq_ok hp hne
    refine ⟨own, guards, rfl, hown, hguards, fun docs d hd g hg => ?_⟩
    obtain ⟨k, hk, hkg⟩ := exists_of_mem_mapM hguards hg
    obtain ⟨path, htest⟩ := hc.testsAt_of_mem_policy hpolicy hk hkg
    have hmatch : d ∈ g.matching docs :=
      Predicate.mem_matching_of_mem_all (List.mem_append_right own hg) hd
    exact ⟨path, htest, htest.not_lacksValueAt hmatch⟩

/-- Under the rule for tasks, nothing that is found is without an owner. -/
theorem matching_ownTasks_not_lacksValueAt :
    Catalog.build taskMetadata = .ok taskCatalog ∧
      GuardedFilter.secure taskCatalog "task" [] =
        .ok ⟨"task", [], [.one "owner" (.eq (.string "ann"))]⟩ ∧
      GuardedFilter.predicate ⟨taskCatalog, "Task", 1⟩
          ⟨"task", [], [.one "owner" (.eq (.string "ann"))]⟩ =
        .ok (.all [.term "owner" (.string "ann")]) ∧
      ∀ docs, ∀ d ∈ (Predicate.all [.term "owner" (.string "ann")]).matching docs,
        ¬ d.LacksValueAt "owner" := by
  obtain ⟨policy, -, hasked, -, hsecure⟩ := policy_restricts (.built build_taskMetadata) "task"
  have hpolicy : policy = [.one "owner" (.eq (.string "ann"))] := hasked
  subst hpolicy
  have hpredicate : GuardedFilter.predicate ⟨taskCatalog, "Task", 1⟩
      ⟨"task", [], [.one "owner" (.eq (.string "ann"))]⟩ =
    .ok (.all [.term "owner" (.string "ann")]) := rfl
  refine ⟨build_taskMetadata, (hsecure []).1, hpredicate, fun docs d hd => ?_⟩
  obtain ⟨own, guards, hall, hown, -, hguards⟩ :=
    (hsecure []).2 _ _ (List.cons_ne_nil _ _) hpredicate
  cases hown
  cases hall
  obtain ⟨path, htest, hvalue⟩ := hguards docs d hd _ List.mem_cons_self
  rwa [htest.path_unique (.term _)] at hvalue

/-! ### Values elsewhere -/

/-- The entity of tasks, with the owners at a path for search. -/
def textTaskEntity : Entity :=
  ⟨1, "Task", true, [(Property.field 1 "owner" .string).withPath "owner_text"]⟩

/-- The catalog of such tasks, under the same rule. -/
def textTaskCatalog : Catalog :=
  ⟨[textTaskEntity], taskMetadata.rules, 0⟩

/-- **A value elsewhere.** The rule becomes a test at the path for search. The document holds
nothing there, but the value that it holds at the path without the ending stands in for it. -/
theorem mem_matching_without_value_at_path :
    Catalog.build textTaskCatalog.metadata = .ok textTaskCatalog ∧
      textTaskCatalog.policy "Task" = .ok [.one "owner" (.eq (.string "ann"))] ∧
      Predicate.ofCondition ⟨textTaskCatalog, "Task", 1⟩ (.one "owner" (.eq (.string "ann"))) =
        .ok (.term "owner_text" (.string "ann")) ∧
      Json.valuesAt "owner_text" (task "ann").source = [] ∧
      task "ann" ∈ (Predicate.term "owner_text" (.string "ann")).matching [task "ann"] := by
  have hpredicate :
      Predicate.ofCondition ⟨textTaskCatalog, "Task", 1⟩ (.one "owner" (.eq (.string "ann"))) =
        .ok (.term (PathPair.ofPath "owner_text").exact (.string "ann")) := rfl
  have haccepts : (Predicate.term "owner_text" (.string "ann")).accepts (task "ann") = true := by
    decide +kernel
  rw [PathPair.exact_ofPath] at hpredicate
  refine ⟨rfl, rfl, hpredicate, by decide +kernel, ?_⟩
  rw [Predicate.matching_eq_filter]
  exact List.mem_filter.mpr ⟨List.mem_singleton_self _, haccepts⟩

end GuardedSearch
