import GuardedSearch.Proofs.Condition.OneOperator
import GuardedSearch.Proofs.Condition.Operators

/-!
# Documents with one value

An operator that compares asks for a value that passes a test, and the values are those at the path
for comparison. Nothing stands in for these: values at other paths count only where there are none
at the path itself. So what a document with one value matches is a matter of that value and the
operand alone, whatever else the document holds and wherever the path comes from.

## Main definitions

* `Operator.operands` — the literals that an operator compares with

## Main results

* `Target.exists_predicate_of_compares` — an operator compiles if its operands have the field's type
* `Target.accepts_iff_passes` — a document with one value matches if the value passes
* `Predicate.exists_ofCondition_of_compares` — both, for a condition
-/

namespace GuardedSearch

namespace Operator

/-- The literals that an operator compares with. -/
def operands : Operator → List Literal
  | eq l | gt l | gte l | lt l | lte l => [l]
  | oneOf ls => ls
  | contains _ | startsWith _ => []

theorem compares_operator (k : Bounds.Kind) (l : Literal) : (k.operator l).Compares := by
  cases k <;> trivial

theorem operands_operator (k : Bounds.Kind) (l : Literal) : (k.operator l).operands = [l] := by
  cases k <;> rfl

end Operator

/-- A path with values needs none to stand in for them. -/
theorem Json.fieldValues_eq_valuesAt {path : String} {source : Json}
    (h : valuesAt path source ≠ []) : fieldValues path source = valuesAt path source := by
  rw [fieldValues]
  cases hvalues : valuesAt path source with
  | nil => exact absurd hvalues h
  | cons v vs => rfl

namespace Target

variable {t : Target} {field : String} {op : Operator} {type : DataType} {p : Predicate}

/-! ### Compiling -/

theorem coerce_of_type (htype : t.type = some type) {l w : Literal} (h : l.coerce? type = some w) :
    t.coerce field l = .ok w := by
  rw [coerce, htype]
  simp only [Literal.coerce, h]

theorem boundValue_of_type (htype : t.type = some type) (hrange : type.hasRange = true)
    {l w : Literal} (h : l.coerce? type = some w) : t.boundValue field l = .ok w := by
  refine bind_unit_eq_ok_iff.mpr ⟨?_, coerce_of_type htype h⟩
  rw [require, htype]
  exact if_pos hrange

/-- An operator that compares compiles if its operands can be taken for values of the field's type,
and if the type has an order where the operator needs one. -/
theorem exists_predicate_of_compares (hop : op.Compares) (htype : t.type = some type)
    (hrange : op.isBound = true → type.hasRange = true)
    (h : ∀ l ∈ op.operands, ∃ w, l.coerce? type = some w) :
    ∃ p, t.predicate field [op] = .ok p := by
  suffices hdemands : ∃ e, t.demands field op = .ok e by
    obtain ⟨e, he⟩ := hdemands
    exact ⟨_, predicate_one_eq_ok_iff.mpr ⟨e, he, rfl⟩⟩
  cases hbound : op.isBound with
  | true =>
    obtain ⟨k, l, rfl⟩ := Operator.exists_of_isBound hbound
    obtain ⟨w, hw⟩ := h l (by simp [Operator.operands_operator])
    exact ⟨_, demands_operator_eq_ok_iff.mpr
      ⟨w, boundValue_of_type htype (hrange hbound) hw, rfl⟩⟩
  | false =>
    cases op with
    | gt | gte | lt | lte => cases hbound
    | contains | startsWith => exact hop.elim
    | eq l =>
      obtain ⟨w, hw⟩ := h l List.mem_cons_self
      exact ⟨_, bind_eq_ok_iff.mpr ⟨w, coerce_of_type htype hw, rfl⟩⟩
    | oneOf ls =>
      cases ls with
      | nil => exact absurd rfl hop
      | cons l ls =>
        obtain ⟨ws, hws⟩ := (exists_mapM_eq_ok_iff (f := t.coerce field)).mpr fun l hl =>
          (h l hl).imp fun w hw => coerce_of_type htype hw
        exact ⟨_, bind_eq_ok_iff.mpr ⟨ws, hws, rfl⟩⟩

/-! ### Matching -/

/-- An operator that compares accepts the documents with a value that passes. -/
theorem accepts_iff_exists_passes (hop : op.Compares) (hp : t.predicate field [op] = .ok p)
    (d : Document) :
    p.accepts d = true ↔
      ∃ v ∈ Json.fieldValues t.paths.exact d.source, t.passes field v op = true := by
  rw [accepts_of_predicate hp, SatisfiesAll]
  cases hbound : op.isBound with
  | true => simp [hbound, Operator.inForce_singleton_iff]
  | false =>
    have hpath : t.pathOf op = t.paths.exact := by
      cases op with
      | contains | startsWith => exact hop.elim
      | eq | oneOf | gt | gte | lt | lte => rfl
    have hne : op ≠ .oneOf [] := by
      rintro rfl
      exact hop rfl
    simp [hbound, hne, Satisfies, hpath]

/-- **A document with one value matches if the value passes.** -/
theorem accepts_iff_passes (hop : op.Compares) (hp : t.predicate field [op] = .ok p)
    {d : Document} {v : Json} (hd : Json.valuesAt t.paths.exact d.source = [v]) :
    p.accepts d = true ↔ t.passes field v op = true := by
  rw [accepts_iff_exists_passes hop hp, Json.fieldValues_eq_valuesAt (by simp [hd]), hd]
  simp

end Target

/-- A condition with such an operator compiles, and asks a document with one value for what the
operator asks that value for. -/
theorem Predicate.exists_ofCondition_of_compares {s : Scope} {name : String} {t : Target}
    {type : DataType} {op : Operator} (hdepth : 1 ≤ s.maxDepth) (ht : s.target name = .ok t)
    (htype : t.type = some type) (hop : op.Compares)
    (hrange : op.isBound = true → type.hasRange = true)
    (h : ∀ l ∈ op.operands, ∃ w, l.coerce? type = some w) :
    ∃ p, ofCondition s (.one name op) = .ok p ∧
      ∀ d v, Json.valuesAt t.paths.exact d.source = [v] →
        (p.accepts d = true ↔ t.passes name v op = true) := by
  obtain ⟨p, hp⟩ : ∃ p, t.predicate name [op] = .ok p :=
    Target.exists_predicate_of_compares hop htype hrange h
  exact ⟨p, ofCondition_field_eq_ok_iff.mpr ⟨hdepth, t, ht, hp⟩,
    fun d v hd => Target.accepts_iff_passes hop hp hd⟩

end GuardedSearch
