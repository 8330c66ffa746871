import GuardedSearch.Proofs.Condition.Reading
import GuardedSearch.Proofs.Json.Words

/-!
# Canonical conditions

JSON cannot tell all conditions apart. An object has each attribute once and in no order that
matters, so of the operators on a field only one of each name can be written down, and they are read
in the order in which they apply; dates are written as texts, and doubles that are not finite not at
all. What remains are the canonical conditions. Whatever is read is one of them.

## Main definitions

* `Literal.Canonical`, `Operator.Canonical`, `Condition.Canonical` — what JSON can write down

## Main results

* `Condition.canonical_of_node` — a node of the grammar says a canonical condition
-/

namespace GuardedSearch

/-! ### Literals and operators -/

/-- A literal that JSON has a scalar for. Whole numbers are those of 64 bits with a sign. -/
def Literal.Canonical : Literal → Prop
  | .int n => Text.int64Least ≤ n ∧ n ≤ Text.int64Greatest
  | .double x => x.isFinite = true
  | .bool _ | .string _ => True
  | .date _ => False

/-- An operator with operands that JSON has scalars for. -/
def Operator.Canonical : Operator → Prop
  | .eq v | .gt v | .gte v | .lt v | .lte v => v.Canonical
  | .oneOf vs => ∀ v ∈ vs, v.Canonical
  | .contains _ | .startsWith _ => True

theorem Literal.canonical_of_written {v : Json} {l : Literal} (hv : v.Fits)
    (h : Literal.Written v l) : l.Canonical := by
  cases h with
  | bool | string => trivial
  | int hleast hgreatest => exact ⟨hleast, hgreatest⟩
  | large hlarge =>
    cases hv with
    | number hn =>
      have hfinite := Json.Number.isFinite_toDouble hn
      rwa [Json.Number.toDouble] at hfinite
  | double x => rfl

theorem Operator.Written.name_eq {a : String × Json} {op : Operator} (h : Operator.Written a op) :
    op.name = a.1 := by
  cases h <;> rfl

theorem Operator.names_of_written {attributes : List (String × Json)} {operators : List Operator}
    (h : List.Forall₂ Operator.Written attributes operators) :
    operators.map Operator.name = Table.names attributes := by
  induction h with
  | nil => rfl
  | cons hop _ ih => rw [List.map_cons, hop.name_eq, ih, Table.names, Table.names, List.map_cons]

theorem Operator.canonical_of_written {a : String × Json} {op : Operator} (hv : a.2.Fits)
    (h : Operator.Written a op) : op.Canonical := by
  cases h with
  | contains | startsWith => trivial
  | eq hl | gt hl | gte hl | lt hl | lte hl => exact Literal.canonical_of_written hv hl
  | oneOf hitems =>
    cases hv with
    | array hfits =>
      intro l hl
      obtain ⟨v, hv, hwritten⟩ := exists_mem_of_forall₂ hitems.flip hl
      exact Literal.canonical_of_written (hfits v hv) hwritten

namespace Condition

/-! ### Conditions -/

/-- A condition that JSON can tell from all others: on every field each operator occurs at most
once, in the order in which they apply, and with operands that JSON has scalars for. -/
inductive Canonical : Condition → Prop
  | all {parts : List Condition} : (∀ c ∈ parts, Canonical c) → Canonical (.all parts)
  | any {parts : List Condition} : (∀ c ∈ parts, Canonical c) → Canonical (.any parts)
  | not {part : Condition} : Canonical part → Canonical (.not part)
  | field (name : String) {operators : List Operator}
      (inOrder : (operators.map Operator.name).Sublist operatorOrder)
      (canonical : ∀ op ∈ operators, op.Canonical) : Canonical (.field name operators)

theorem canonical_join {parts : List Condition} (h : ∀ c ∈ parts, c.Canonical) :
    (join parts).Canonical := by
  unfold join
  split
  · exact h _ (List.mem_singleton_self _)
  · exact .all h

/-- The names of what is present stand in the order that was asked for. -/
theorem names_present_sublist (order : List String) (members : List (String × Json)) :
    (Table.names (present order members)).Sublist order := by
  refine Table.names_filterMap_sublist (fun key entry hentry => ?_) order
  obtain ⟨v, -, rfl⟩ := Option.map_eq_some_iff.mp hentry
  rfl

/-! ### What is read -/

/-- Every node that the value is, and that its items are, says a canonical condition. -/
structure SaysCanonical (v : Json) : Prop where
  node : ∀ c, Node v c → c.Canonical
  items : ∀ items, v = .array items → ∀ item ∈ items, ∀ c, Node item c → c.Canonical

theorem SaysCanonical.parts {items : List Json} {parts : List Condition}
    (h : SaysCanonical (.array items)) (hparts : List.Forall₂ Node items parts) :
    ∀ c ∈ parts, c.Canonical := by
  intro c hc
  obtain ⟨item, hitem, hnode⟩ := exists_mem_of_forall₂ hparts.flip hc
  exact h.items items rfl item hitem c hnode

theorem canonical_of_group {a : String × Json} {c : Condition} (h : SaysCanonical a.2)
    (hgroup : Group a c) : c.Canonical := by
  cases hgroup with
  | all hparts => exact .all (h.parts hparts)
  | any hparts => exact .any (h.parts hparts)
  | not hpart => exact .not (h.node _ hpart)

/-- What a node says is canonical if that holds of the values in it. -/
theorem canonical_of_gives {v : Json} {c : Condition}
    (hfits : ∀ members, Gives v members → ∀ m ∈ members, m.2.Fits)
    (ih : ∀ members, Gives v members → ∀ m ∈ members, SaysCanonical m.2) (h : Node v c) :
    c.Canonical := by
  obtain @⟨_, members, name, operators, groups, hgives, -, -, -, hoperators, hgroups, -⟩ := h
  have hnames : operators.map Operator.name = Table.names (present operatorOrder members) :=
    Operator.names_of_written hoperators
  refine canonical_join fun c hc => ?_
  rcases List.mem_append.mp hc with hc | hc
  · obtain ⟨⟨key, w⟩, hm, hgroup⟩ := exists_mem_of_forall₂ hgroups.flip hc
    exact canonical_of_group (ih members hgives _ (mem_of_given? (mem_present_iff.mp hm).2)) hgroup
  · obtain ⟨name, -, rfl⟩ := Option.map_eq_some_iff.mp (Option.mem_toList.mp hc)
    refine .field name (hnames ▸ names_present_sublist operatorOrder members) fun op hop => ?_
    obtain ⟨⟨key, w⟩, hm, hwritten⟩ := exists_mem_of_forall₂ hoperators.flip hop
    exact Operator.canonical_of_written
      (hfits members hgives _ (mem_of_given? (mem_present_iff.mp hm).2)) hwritten

theorem saysCanonical {v : Json} (hfits : v.Fits) : SaysCanonical v := by
  induction hfits with
  | @array items hfits ih =>
    refine ⟨fun c => canonical_of_gives ?_ ?_, ?_⟩
    · intro members hgives m hm
      obtain ⟨-, rfl⟩ := gives_array_iff.mp hgives
      exact hfits m.2 (List.of_mem_zip hm).2
    · intro members hgives m hm
      obtain ⟨-, rfl⟩ := gives_array_iff.mp hgives
      exact ih m.2 (List.of_mem_zip hm).2
    · rintro _ ⟨⟩ item hitem
      exact (ih item hitem).node
  | @object members hfits ih =>
    refine ⟨fun c => canonical_of_gives ?_ ?_, ?_⟩
    · intro given hgives
      obtain rfl := gives_object_iff.mp hgives
      exact hfits
    · intro given hgives
      obtain rfl := gives_object_iff.mp hgives
      exact ih
    · rintro _ ⟨⟩
  | null | bool | number | string =>
    refine ⟨?_, ?_⟩
    · rintro c ⟨⟨⟩⟩
    · rintro _ ⟨⟩

/-- **What is read is canonical.** -/
theorem canonical_of_node {v : Json} {c : Condition} (hfits : v.Fits) (h : Node v c) :
    c.Canonical :=
  (saysCanonical hfits).node c h

end Condition

end GuardedSearch
