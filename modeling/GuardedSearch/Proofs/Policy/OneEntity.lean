import GuardedSearch.Proofs.Policy.Asked

/-!
# A secured filter is for one entity

A filter is secured under one name and used under another, and three comparisons of names have to
go together if no policy is to be passed off as that of another entity. The filter may be used if
the two names are the same up to ASCII case. Rules are aimed at names up to ASCII case, so that the
same rules are in force under both. Entities are found by the lower-case form of a name, which does
not tell apart names that are the same up to ASCII case, so that both lead to the same one. Neither
of these could be relied on if the filter were accepted for every name of its entity: other rules
may be in force under each of them.

## Main results

* `Catalog.policy_congr` — names that are the same up to ASCII case have the same policy
* `GuardedFilter.secured_for_one_entity` — where a secured filter can be used, and as what
-/

namespace GuardedSearch

/-! ### Names that are the same up to ASCII case -/

theorem Text.sameIgnoringAsciiCase_congr {a b : String} (h : sameIgnoringAsciiCase a b = true)
    (name : String) : sameIgnoringAsciiCase name a = sameIgnoringAsciiCase name b := by
  rw [Bool.eq_iff_iff, sameIgnoringAsciiCase_iff, sameIgnoringAsciiCase_iff,
    sameIgnoringAsciiCase_iff.mp h]

namespace Catalog

theorem activeRules_congr (c : Catalog) {a b : String}
    (h : Text.sameIgnoringAsciiCase a b = true) : c.activeRules a = c.activeRules b := by
  simp only [activeRules, Text.sameIgnoringAsciiCase_congr h]

theorem policy_congr (c : Catalog) {a b : String} (h : Text.sameIgnoringAsciiCase a b = true) :
    c.policy a = c.policy b := by
  rw [policy, policy, c.activeRules_congr h]

end Catalog

/-! ### Secured filters -/

namespace GuardedFilter

/-- Securing a filter of a client cannot fail in a catalog that there is a way to come by. -/
theorem exists_secure {c : Catalog} (hc : c.Obtained) (name : String) (user : List Condition) :
    ∃ policy, c.policy name = .ok policy ∧ secure c name user = .ok ⟨name, user, policy⟩ := by
  have hpolicy := hc.policy_eq name
  exact ⟨_, hpolicy, secure_of_policy hpolicy user⟩

/-- A secured filter is refused under all names but those that its own is the same as. -/
theorem sameIgnoringAsciiCase_of_predicate {s : Scope} {f : GuardedFilter} {p : Predicate}
    (h : f.predicate s = .ok p) : Text.sameIgnoringAsciiCase f.entity s.entity = true := by
  rw [predicate] at h
  split at h
  case isTrue hname => exact hname
  case isFalse => cases h

/-- **A secured filter is for one entity.** A filter that was secured under some name has a
predicate in a scope only if the two names are those of one entity, or neither of any, with the same
rules in force; its conditions are then the same as if it had been secured for the scope, and so is
its predicate. Names that are the same up to ASCII case give the same outcome in any case, and no
others give a predicate at all. -/
theorem secured_for_one_entity {s : Scope} (hc : s.catalog.Obtained) (name : String)
    (user : List Condition) :
    ∃ f own, secure s.catalog name user = .ok f ∧ secure s.catalog s.entity user = .ok own ∧
      (∀ p, f.predicate s = .ok p →
        s.catalog.entity? name = s.catalog.entity? s.entity ∧
        s.catalog.activeRules name = s.catalog.activeRules s.entity ∧
        f.policy = own.policy ∧ f.conditions = own.conditions ∧ own.predicate s = .ok p) ∧
      (Text.sameIgnoringAsciiCase name s.entity = true → f.predicate s = own.predicate s) ∧
      (Text.sameIgnoringAsciiCase name s.entity = false →
        f.predicate s = .error (.invalidRequest (.otherEntity name s.entity))) := by
  obtain ⟨policy, hpolicy, hsecure⟩ := exists_secure hc name user
  obtain ⟨own, hown, hsecureOwn⟩ := exists_secure hc s.entity user
  have hsame : Text.sameIgnoringAsciiCase name s.entity = true → policy = own := by
    intro h
    rw [s.catalog.policy_congr h, hown] at hpolicy
    exact (Except.ok.inj hpolicy).symm
  have heq : Text.sameIgnoringAsciiCase name s.entity = true →
      predicate s ⟨name, user, policy⟩ = predicate s ⟨s.entity, user, own⟩ := by
    intro h
    rw [predicate, predicate, if_pos h, if_pos (Text.sameIgnoringAsciiCase_refl s.entity),
      conditions, conditions, hsame h]
  refine ⟨_, _, hsecure, hsecureOwn, fun p hp => ?_, heq, fun hother => ?_⟩
  · have hname : Text.sameIgnoringAsciiCase name s.entity = true :=
      sameIgnoringAsciiCase_of_predicate hp
    refine ⟨s.catalog.entity?_eq_of_sameIgnoringAsciiCase hname, s.catalog.activeRules_congr hname,
      hsame hname, ?_, (heq hname).symm.trans hp⟩
    rw [conditions, conditions, hsame hname]
  · exact if_neg (ne_true_of_eq_false hother)

/-- What was secured for tasks in capitals carries their rule and can be used for tasks. With the
Kelvin sign for its last letter, the name still leads to tasks, but no rule is in force under it.
What was secured under that name is of no use for tasks. -/
theorem secured_for_kelvinSign :
    taskCatalog.Obtained ∧
      (∃ f, secure taskCatalog "TASK" [] = .ok f ∧
        f.policy = [.one "owner" (.eq (.string "ann"))] ∧
        f.predicate ⟨taskCatalog, "Task", 1⟩ = .ok (.all [.term "owner" (.string "ann")])) ∧
      taskCatalog.entity? "Tas\u212A" = taskCatalog.entity? "Task" ∧
      ∃ f, secure taskCatalog "Tas\u212A" [] = .ok f ∧ f.policy = [] ∧
        f.predicate ⟨taskCatalog, "Task", 1⟩ =
          .error (.invalidRequest (.otherEntity "Tas\u212A" "Task")) := by
  have hc : taskCatalog.Obtained := .built build_taskMetadata
  have hone := secured_for_one_entity (s := ⟨taskCatalog, "Task", 1⟩) hc
  refine ⟨hc, ?_, by decide +kernel, ?_⟩
  · obtain ⟨f, own, hf, hown, hused, hsame, -⟩ := hone "TASK" []
    have hownPredicate : own.predicate ⟨taskCatalog, "Task", 1⟩ =
        .ok (.all [.term "owner" (.string "ann")]) := by
      cases hown
      rfl
    have hpredicate := (hsame (by decide +kernel)).trans hownPredicate
    refine ⟨f, hf, ?_, hpredicate⟩
    obtain ⟨-, -, hpolicy, -⟩ := hused _ hpredicate
    rw [hpolicy]
    cases hown
    rfl
  · obtain ⟨f, own, hf, -, -, -, hrefused⟩ := hone "Tas\u212A" []
    have hpolicy : f.policy = [] := by
      cases hf
      rfl
    exact ⟨f, hf, hpolicy, hrefused (by decide +kernel)⟩

end GuardedFilter

end GuardedSearch
