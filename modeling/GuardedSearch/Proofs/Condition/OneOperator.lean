import GuardedSearch.Proofs.Condition.Meaning
import GuardedSearch.Proofs.Predicate.PathTest

/-!
# Conditions with one operator

The operators on a field are collected first and become a predicate together. For one operator there
is nothing to collect, and its predicate is what it demands. An operator that compares demands one
test of the values at the path for comparison; only a list without values demands nothing, which
would let every document through.

## Main definitions

* `Operator.Compares` — the operators that compare values, with something to compare them with

## Main results

* `Target.testsAt_of_predicate` — what such an operator becomes
* `Predicate.ofCondition_one_eq_ok_iff` — a condition with one operator, taken apart
-/

namespace GuardedSearch

/-- The operator compares values, and has a value to compare them with. -/
def Operator.Compares : Operator → Prop
  | .eq _ | .gt _ | .gte _ | .lt _ | .lte _ => True
  | .oneOf vs => vs ≠ []
  | .contains _ | .startsWith _ => False

/-! ### Demands -/

theorem Demands.none_and (d : Demands) : Demands.none.and d = d := by
  obtain ⟨clauses, gte, gt, lte, lt⟩ := d
  simp [Demands.none, Demands.and, Bounds.none]

namespace Target

variable {t : Target} {field : String} {op : Operator} {p : Predicate}

/-- The predicate of one operator is made of what it demands. -/
theorem predicate_one_eq_ok_iff :
    t.predicate field [op] = .ok p ↔
      ∃ d, t.demands field op = .ok d ∧ Predicate.conjunction (d.allClauses t.paths) = p := by
  simp only [predicate, List.mapM_cons, List.mapM_nil, bind_eq_ok_iff, pure_eq_ok_iff]
  constructor
  · rintro ⟨-, ⟨d, hd, -, rfl, rfl⟩, rfl⟩
    exact ⟨d, hd, by rw [List.foldl_cons, List.foldl_nil, Demands.none_and]⟩
  · rintro ⟨d, hd, rfl⟩
    exact ⟨[d], ⟨d, hd, [], rfl, rfl⟩, by rw [List.foldl_cons, List.foldl_nil, Demands.none_and]⟩

/-- What an operator that compares demands is one test of the values at the path for comparison. -/
theorem demands_of_compares (hop : op.Compares) {d : Demands} (h : t.demands field op = .ok d) :
    ∃ p : Predicate, p.TestsAt t.paths.exact ∧ d.allClauses t.paths = [p] := by
  cases op with
  | contains part => exact hop.elim
  | startsWith start => exact hop.elim
  | eq v =>
    simp only [demands, bind_eq_ok_iff, pure_eq_ok_iff] at h
    obtain ⟨w, -, rfl⟩ := h
    exact ⟨.term t.paths.exact w, .term w, rfl⟩
  | oneOf vs =>
    cases vs with
    | nil => exact absurd rfl hop
    | cons v vs =>
      simp only [demands, List.mapM_cons, bind_eq_ok_iff, pure_eq_ok_iff] at h
      obtain ⟨-, ⟨w, -, ws, -, rfl⟩, rfl⟩ := h
      exact ⟨.terms t.paths.exact (w :: ws), .terms (List.cons_ne_nil w ws), rfl⟩
  | gt v | gte v | lt v | lte v =>
    simp only [demands, bind_eq_ok_iff, pure_eq_ok_iff] at h
    obtain ⟨w, -, rfl⟩ := h
    exact ⟨.range t.paths.exact _, .range rfl, rfl⟩

/-- **An operator that compares becomes a test**, at the path for comparison. -/
theorem testsAt_of_predicate (hop : op.Compares) (h : t.predicate field [op] = .ok p) :
    p.TestsAt t.paths.exact := by
  obtain ⟨d, hd, rfl⟩ := predicate_one_eq_ok_iff.mp h
  obtain ⟨p, hp, hclauses⟩ := demands_of_compares hop hd
  rw [hclauses]
  exact hp

end Target

/-! ### Conditions -/

namespace Predicate

variable {s : Scope} {field : String} {op : Operator} {p : Predicate}

theorem ofCondition_one_eq_ok_iff :
    ofCondition s (.one field op) = .ok p ↔
      1 ≤ s.maxDepth ∧ ∃ root, s.root = .ok root ∧
        ∃ t, s.catalog.target root field = .ok t ∧ t.predicate field [op] = .ok p := by
  simp only [ofCondition_eq_ok_iff, Condition.one, ofNode_field_eq_ok_iff, ofField, bind_eq_ok_iff]
  constructor
  · rintro ⟨root, hroot, hdepth, t, ht, hp⟩
    exact ⟨hdepth, root, hroot, t, ht, hp⟩
  · rintro ⟨hdepth, root, hroot, t, ht, hp⟩
    exact ⟨root, hroot, hdepth, t, ht, hp⟩

/-- A condition that compares tests the values at the path that its name stands for. -/
theorem testsAt_of_ofCondition (hop : op.Compares) (h : ofCondition s (.one field op) = .ok p) :
    ∃ root, s.root = .ok root ∧
      ∃ t, s.catalog.target root field = .ok t ∧ p.TestsAt t.paths.exact := by
  obtain ⟨-, root, hroot, t, ht, hp⟩ := ofCondition_one_eq_ok_iff.mp h
  exact ⟨root, hroot, t, ht, Target.testsAt_of_predicate hop hp⟩

end Predicate

end GuardedSearch
