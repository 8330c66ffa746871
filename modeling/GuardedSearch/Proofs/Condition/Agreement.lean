import GuardedSearch.Proofs.Condition.OneOperator
import GuardedSearch.Proofs.Condition.Operators

/-!
# Operators that say the same

Some operators can be said by others: to be one of several values is to equal one or the other, and
to be at least a value is to be above it or to equal it. A condition that asks for one value or
another is compiled as a group of conditions, each by itself, while the operator becomes one test
with a list or a bound; but values are compared in the same way in all of them, and a document that
has a value for the one has a value for the other.

A group is also checked part by part, and an operator as a whole. What is wrong with the operator is
wrong with the first part that anything is wrong with, so that both are refused for the same reason.

## Main definitions

* `Condition.rowsFound` — the rows of documents that a condition finds, or why it is refused

## Main results

* `Predicate.ofCondition_any_one` — a group of conditions on one field, compiled
* `Target.predicate_one` — one operator, compiled; the equations for each kind of it follow
* `operators_agree` — an operator and the group that says the same
-/

namespace GuardedSearch

/-- The rows of a list of documents that a condition finds, or why it has no predicate. -/
def Condition.rowsFound (s : Scope) (docs : List Document) (c : Condition) :
    Except SearchError RowSet :=
  (fun p : Predicate => p.rows docs) <$> Predicate.ofCondition s c

/-! ### One operator -/

namespace Target

variable (t : Target) (field : String)

/-- The predicate of one operator is made of what it demands. -/
theorem predicate_one (op : Operator) :
    t.predicate field [op] =
      (fun d : Demands => Predicate.conjunction (d.allClauses t.paths)) <$> t.demands field op := by
  rw [predicate, List.mapM_cons, List.mapM_nil]
  cases t.demands field op with
  | error e => rfl
  | ok d =>
    change Except.ok (Predicate.conjunction ((Demands.none.and d).allClauses t.paths)) = _
    rw [Demands.none_and]
    rfl

theorem predicate_eq (v : Literal) :
    t.predicate field [.eq v] = Predicate.term t.paths.exact <$> t.coerce field v := by
  rw [predicate_one, demands]
  cases t.coerce field v <;> rfl

theorem predicate_oneOf {vs : List Literal} (h : vs ≠ []) :
    t.predicate field [.oneOf vs] =
      Predicate.terms t.paths.exact <$> vs.mapM (t.coerce field) := by
  rw [predicate_one, demands]
  · cases vs.mapM (t.coerce field) <;> rfl
  · exact h

theorem predicate_operator (k : Bounds.Kind) (v : Literal) :
    t.predicate field [k.operator v] =
      (fun w => Predicate.range t.paths.exact (k.only w)) <$> t.boundValue field v := by
  rw [predicate_one]
  cases k <;> simp only [Bounds.Kind.operator, demands] <;>
    cases t.boundValue field v <;> rfl

end Target

/-! ### Groups on one field -/

namespace Predicate

variable {s : Scope} {name : String}

theorem ofNode_one {root : Entity} {depth : Nat} (hdepth : depth ≤ s.maxDepth) (op : Operator) :
    ofNode s root depth (.one name op) = ofField s root name [op] := by
  rw [Condition.one, ofNode, checkDepth_eq_ok_iff.mpr hdepth, ok_bind]

theorem ofCondition_one (hdepth : 1 ≤ s.maxDepth) (op : Operator) :
    ofCondition s (.one name op) = s.target name >>= fun t => t.predicate name [op] := by
  rw [ofCondition, Scope.target]
  cases s.root with
  | error e => rfl
  | ok root => exact ofNode_one hdepth op

/-- **A group of conditions on one field** looks the field up and takes its operators one by one. -/
theorem ofCondition_any_one (hdepth : 2 ≤ s.maxDepth) {ops : List Operator} (hops : ops ≠ []) :
    ofCondition s (.any (ops.map (.one name))) =
      s.target name >>= fun t => any <$> ops.mapM fun op => t.predicate name [op] := by
  rw [ofCondition, Scope.target]
  cases s.root with
  | error e => rfl
  | ok root =>
    have hone : ∀ op, ofNode s root 2 (.one name op) = ofField s root name [op] :=
      ofNode_one hdepth
    rw [ok_bind, ok_bind, ofNode, checkDepth_eq_ok_iff.mpr (Nat.le_of_succ_le hdepth), ok_bind,
      ofNodes_eq_mapM, List.mapM_map]
    simp only [Function.comp_def, hone, ofField]
    cases s.catalog.target root name with
    | error e =>
      obtain ⟨op, rest, rfl⟩ := List.exists_cons_of_ne_nil hops
      rfl
    | ok t =>
      simp only [ok_bind]
      cases hclauses : ops.mapM fun op => t.predicate name [op] with
      | error e => rfl
      | ok clauses =>
        have hlength := (mapM_eq_ok_iff.mp hclauses).length_eq
        cases clauses with
        | nil => exact absurd (List.length_eq_zero_iff.mp hlength) hops
        | cons p ps => rfl

/-! ### Documents -/

/-- Predicates that accept the same documents match the same rows. -/
theorem rows_congr {p q : Predicate} (h : ∀ d, p.accepts d = q.accepts d) (docs : List Document) :
    p.rows docs = q.rows docs :=
  RowSet.ext_has fun row => by rw [has_rows, has_rows, funext h]

/-- To be one of several values is to equal one or another. -/
theorem accepts_terms (path : String) {ws : List Literal} (h : ws ≠ []) (d : Document) :
    (terms path ws).accepts d = (any (ws.map (term path))).accepts d := by
  rw [accepts_of_leaf (fun _ => rfl), accepts_any (by simpa using h), List.any_map, Bool.eq_iff_iff]
  have hterm : ∀ w, (term path w).accepts d = anyValue path (fun v => v.equals w) d := fun w =>
    accepts_of_leaf (fun _ => rfl) d
  simp only [Function.comp_def, hterm, anyValue, List.any_eq_true]
  constructor
  · rintro ⟨v, hv, w, hw, hequals⟩
    exact ⟨w, hw, v, hv, hequals⟩
  · rintro ⟨w, hw, v, hv, hequals⟩
    exact ⟨v, hv, w, hw, hequals⟩

theorem withinBounds_only (k : Bounds.Kind) (w : Literal) (v : Json) :
    withinBounds (k.only w) v = (v.compareTo? w).any k.admits := by
  cases k <;> simp [withinBounds, Bounds.Kind.only, Bounds.containsBy, Bounds.keeps, Bounds.none,
    Bounds.Kind.admits]

/-- To keep to a bound is to keep to the bound of the stricter kind or to equal it. -/
theorem accepts_range (path : String) {k strict : Bounds.Kind}
    (h : ∀ o, k.admits o = (strict.admits o || o == .eq)) (w : Literal) (d : Document) :
    (range path (k.only w)).accepts d =
      (any [range path (strict.only w), term path w]).accepts d := by
  have hvalue : ∀ v : Json, withinBounds (k.only w) v =
      (withinBounds (strict.only w) v || v.equals w) := by
    intro v
    rw [withinBounds_only, withinBounds_only, Json.equals]
    cases v.compareTo? w with
    | none => rfl
    | some o => exact h o
  have hrange : ∀ b, (range path b).accepts d = anyValue path (withinBounds b) d := fun _ =>
    accepts_of_leaf (fun _ => rfl) d
  have hterm : (term path w).accepts d = anyValue path (fun v => v.equals w) d :=
    accepts_of_leaf (fun _ => rfl) d
  rw [accepts_any (List.cons_ne_nil _ _), List.any_cons, List.any_cons, List.any_nil, Bool.or_false,
    hrange, hrange, hterm, Bool.eq_iff_iff]
  simp only [anyValue, hvalue, List.any_eq_true, Bool.or_eq_true, and_or_left, exists_or]

end Predicate

/-! ### Conditions -/

namespace Condition

variable {s : Scope} (name : String) (docs : List Document)

/-- To be one of several values finds what it finds to equal one or another. -/
theorem rowsFound_oneOf (hdepth : 2 ≤ s.maxDepth) {vs : List Literal} (h : vs ≠ []) :
    (one name (.oneOf vs)).rowsFound s docs =
      (any (vs.map fun v => one name (.eq v))).rowsFound s docs := by
  have hparts : (vs.map fun v => one name (.eq v)) = (vs.map Operator.eq).map (one name) := by
    rw [List.map_map]
    rfl
  rw [rowsFound, rowsFound, Predicate.ofCondition_one (Nat.le_of_succ_le hdepth), hparts,
    Predicate.ofCondition_any_one hdepth (by simpa using h)]
  cases s.target name with
  | error e => rfl
  | ok t =>
    rw [ok_bind, ok_bind, List.mapM_map, t.predicate_oneOf name h]
    simp only [Function.comp_def, t.predicate_eq name, mapM_map]
    cases hws : vs.mapM (t.coerce name) with
    | error e => rfl
    | ok ws =>
      have hlength := (mapM_eq_ok_iff.mp hws).length_eq
      have hne : ws ≠ [] := by
        rintro rfl
        exact h (List.length_eq_zero_iff.mp hlength)
      exact congrArg Except.ok
        (Predicate.rows_congr (Predicate.accepts_terms t.paths.exact hne) docs)

/-- To keep to a bound finds what it finds to keep to the stricter bound or to equal it. -/
theorem rowsFound_bound (hdepth : 2 ≤ s.maxDepth) (k strict : Bounds.Kind)
    (h : ∀ o, k.admits o = (strict.admits o || o == .eq)) (v : Literal) :
    (one name (k.operator v)).rowsFound s docs =
      (any [one name (strict.operator v), one name (.eq v)]).rowsFound s docs := by
  have hparts : [one name (strict.operator v), one name (.eq v)] =
      [strict.operator v, .eq v].map (one name) := rfl
  rw [rowsFound, rowsFound, Predicate.ofCondition_one (Nat.le_of_succ_le hdepth), hparts,
    Predicate.ofCondition_any_one hdepth (List.cons_ne_nil _ _)]
  cases s.target name with
  | error e => rfl
  | ok t =>
    rw [ok_bind, ok_bind, List.mapM_cons, List.mapM_cons, List.mapM_nil, t.predicate_operator,
      t.predicate_operator, t.predicate_eq, Target.boundValue]
    -- The operand is checked against the type of the field first, and only then coerced.
    cases t.require DataType.hasRange name v with
    | error e => rfl
    | ok checked =>
      rw [ok_bind]
      cases t.coerce name v with
      | error e => rfl
      | ok w =>
        exact congrArg Except.ok
          (Predicate.rows_congr (Predicate.accepts_range t.paths.exact h w) docs)

end Condition

/-- **Operators agree with each other.** Where there is room for two levels of conditions, a
condition on a field that asks for one of several values comes to the same as the group that asks to
equal one or another of them, and one that asks for a bound to be kept, including the bound itself,
to the same as the group that asks for the stricter bound or to equal it. They find the same rows in
any list of fewer documents than there are numbers for rows, or they are refused with the same
error, whatever the field stands for. -/
theorem operators_agree {s : Scope} (hdepth : 2 ≤ s.maxDepth) (name : String)
    (docs : List Document) (_hdocs : docs.length < RowSet.capacity) :
    (∀ vs : List Literal, vs ≠ [] →
      (Condition.one name (.oneOf vs)).rowsFound s docs =
        (Condition.any (vs.map fun v => .one name (.eq v))).rowsFound s docs) ∧
    (∀ v : Literal, (Condition.one name (.gte v)).rowsFound s docs =
      (Condition.any [.one name (.gt v), .one name (.eq v)]).rowsFound s docs) ∧
    ∀ v : Literal, (Condition.one name (.lte v)).rowsFound s docs =
      (Condition.any [.one name (.lt v), .one name (.eq v)]).rowsFound s docs := by
  refine ⟨fun vs h => Condition.rowsFound_oneOf name docs hdepth h, fun v => ?_, fun v => ?_⟩
  · exact Condition.rowsFound_bound name docs hdepth .gte .gt (fun o => by cases o <;> rfl) v
  · exact Condition.rowsFound_bound name docs hdepth .lte .lt (fun o => by cases o <;> rfl) v

/-- Projects with a budget, with a budget that is stored as a text, with two budgets, and with
none. -/
def budgets : List Document :=
  [⟨0, .object [("budget", .ofNat 5)]⟩, ⟨1, .object [("budget", .string "9")]⟩,
    ⟨2, .object [("budget", .array [.ofNat 3, .ofNat 9])]⟩, ⟨3, .object []⟩]

/-- The group for two budgets finds the first three projects, as the list of both does, and the one
for a budget of nine at least finds the second and the third. -/
theorem operators_agree_budgets :
    2 ≤ budgetScope.maxDepth ∧ budgets.length < RowSet.capacity ∧
      [Literal.int 5, .string "9"] ≠ [] ∧
      (Condition.any [.one "budget" (.eq (.int 5)), .one "budget" (.eq (.string "9"))]).rowsFound
        budgetScope budgets = .ok ⟨0b111⟩ ∧
      (Condition.any [.one "budget" (.gt (.int 9)), .one "budget" (.eq (.int 9))]).rowsFound
        budgetScope budgets = .ok ⟨0b110⟩ := by
  have hdepth : 2 ≤ budgetScope.maxDepth := by decide
  have hdocs : budgets.length < RowSet.capacity := by decide
  have hne : [Literal.int 5, .string "9"] ≠ [] := List.cons_ne_nil _ _
  obtain ⟨honeOf, hgte, -⟩ := operators_agree hdepth "budget" budgets hdocs
  refine ⟨hdepth, hdocs, hne, (honeOf _ hne).symm.trans (congrArg Except.ok ?_),
    (hgte (.int 9)).symm.trans (congrArg Except.ok ?_)⟩
  · change (Predicate.terms "budget" [.int 5, .int 9]).rows budgets = ⟨0b111⟩
    decide +kernel
  · change (Predicate.range "budget" (Bounds.Kind.gte.only (.int 9))).rows budgets = ⟨0b110⟩
    decide +kernel

end GuardedSearch
