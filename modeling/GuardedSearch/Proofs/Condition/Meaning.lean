import GuardedSearch.Predicate.OfCondition
import GuardedSearch.Proofs.Catalog.Checked
import GuardedSearch.Proofs.Predicate.Pointwise

/-!
# What a filter means

A condition has a meaning of its own: a document meets a combination of conditions if it meets the
parts as "all", "any" and "not" say, whatever sets of rows a backend may combine. Only a condition
on a field has no parts, and what it asks of a document is what its own predicate asks of it.

Compiling a filter keeps this meaning. A combination without parts is the point where that could go
wrong, since it becomes a predicate without clauses, and under a negation one wrong verdict would
turn into its opposite.

## Main definitions

* `Condition.meets` — whether a document meets a condition

## Main results

* `Predicate.accepts_ofNode` — one node of a filter, at whatever depth
* `Predicate.accepts_ofFilter` — a whole filter
* `has_rows_ofFilter_iff` — which rows of a list of documents the predicate of a filter matches
-/

namespace GuardedSearch

namespace Condition

mutual

/-- Whether a document meets a condition. Every document meets `any []`. A condition on a field that
has no predicate in the scope is met by no document. -/
def meets (s : Scope) (d : Document) : Condition → Bool
  | all parts => meetsAll s d parts
  | any parts => parts.isEmpty || meetsAny s d parts
  | not part => !meets s d part
  | field name operators =>
    match Predicate.ofCondition s (field name operators) with
    | .ok p => p.accepts d
    | .error _ => false

/-- Whether a document meets all conditions of a list. -/
def meetsAll (s : Scope) (d : Document) : List Condition → Bool
  | [] => true
  | c :: rest => meets s d c && meetsAll s d rest

/-- Whether a document meets some condition of a list. -/
def meetsAny (s : Scope) (d : Document) : List Condition → Bool
  | [] => false
  | c :: rest => meets s d c || meetsAny s d rest

end

variable (s : Scope) (d : Document)

theorem meetsAll_eq_all (cs : List Condition) : meetsAll s d cs = cs.all (meets s d) := by
  induction cs with
  | nil => rfl
  | cons c cs ih => rw [meetsAll, ih, List.all_cons]

theorem meetsAny_eq_any (cs : List Condition) : meetsAny s d cs = cs.any (meets s d) := by
  induction cs with
  | nil => rfl
  | cons c cs ih => rw [meetsAny, ih, List.any_cons]

@[simp] theorem meets_all (parts : List Condition) :
    (all parts).meets s d = parts.all (meets s d) := by
  rw [meets, meetsAll_eq_all]

@[simp] theorem meets_any (parts : List Condition) :
    (any parts).meets s d = (parts.isEmpty || parts.any (meets s d)) := by
  rw [meets, meetsAny_eq_any]

@[simp] theorem meets_not (part : Condition) : (not part).meets s d = !part.meets s d := by
  rw [meets]

theorem meets_field {s : Scope} {name : String} {operators : List Operator} {p : Predicate}
    (h : Predicate.ofCondition s (field name operators) = .ok p) (d : Document) :
    (field name operators).meets s d = p.accepts d := by
  simp only [meets, h]

end Condition

namespace Predicate

variable {s : Scope} {root : Entity}

@[simp] theorem checkDepth_eq_ok_iff {depth : Nat} :
    checkDepth s depth = .ok () ↔ depth ≤ s.maxDepth := by
  rw [checkDepth]
  split
  case isTrue h => simpa using h
  case isFalse h => simpa using h

/-! ### Nodes, taken apart -/

section

variable {depth : Nat} {p : Predicate}

theorem ofNode_all_eq_ok_iff {parts : List Condition} :
    ofNode s root depth (.all parts) = .ok p ↔ depth ≤ s.maxDepth ∧
      ∃ clauses, ofNodes s root (depth + 1) parts = .ok clauses ∧
        (if clauses.isEmpty then matchAll else all clauses) = p := by
  rw [ofNode, bind_unit_eq_ok_iff, checkDepth_eq_ok_iff]
  simp

theorem ofNode_any_eq_ok_iff {parts : List Condition} :
    ofNode s root depth (.any parts) = .ok p ↔ depth ≤ s.maxDepth ∧
      ∃ clauses, ofNodes s root (depth + 1) parts = .ok clauses ∧
        (if clauses.isEmpty then matchAll else any clauses) = p := by
  rw [ofNode, bind_unit_eq_ok_iff, checkDepth_eq_ok_iff]
  simp

theorem ofNode_not_eq_ok_iff {part : Condition} :
    ofNode s root depth (.not part) = .ok p ↔ depth ≤ s.maxDepth ∧
      ∃ clause, ofNode s root (depth + 1) part = .ok clause ∧ no clause = p := by
  rw [ofNode, bind_unit_eq_ok_iff, checkDepth_eq_ok_iff]
  simp

theorem ofNode_field_eq_ok_iff {name : String} {operators : List Operator} :
    ofNode s root depth (.field name operators) = .ok p ↔ depth ≤ s.maxDepth ∧
      ofField s root name operators = .ok p := by
  rw [ofNode, bind_unit_eq_ok_iff, checkDepth_eq_ok_iff]

theorem ofNodes_eq_mapM (s : Scope) (root : Entity) (depth : Nat) (cs : List Condition) :
    ofNodes s root depth cs = cs.mapM (ofNode s root depth) := by
  induction cs with
  | nil => rfl
  | cons c cs ih => rw [ofNodes, ih, List.mapM_cons]

theorem ofCondition_eq_ok_iff {c : Condition} :
    ofCondition s c = .ok p ↔ ∃ root, s.root = .ok root ∧ ofNode s root 1 c = .ok p :=
  bind_eq_ok_iff

theorem ofCondition_of_root (hroot : s.root = .ok root) : ofCondition s = ofNode s root 1 := by
  funext c
  rw [ofCondition, hroot]
  rfl

end

/-! ### Nodes -/

/-- A condition on a field becomes the same predicate at every depth that is let in. -/
theorem ofCondition_field_of_ofNode (hroot : s.root = .ok root) {depth : Nat} (hdepth : 1 ≤ depth)
    {name : String} {operators : List Operator} {p : Predicate}
    (h : ofNode s root depth (.field name operators) = .ok p) :
    ofCondition s (.field name operators) = .ok p := by
  obtain ⟨hmax, hfield⟩ := ofNode_field_eq_ok_iff.mp h
  exact ofCondition_eq_ok_iff.mpr
    ⟨root, hroot, ofNode_field_eq_ok_iff.mpr ⟨Nat.le_trans hdepth hmax, hfield⟩⟩

mutual

/-- **Compiling a node keeps its meaning.** -/
theorem accepts_ofNode (hroot : s.root = .ok root) (d : Document) {depth : Nat}
    (hdepth : 1 ≤ depth) : ∀ {c : Condition} {p : Predicate}, ofNode s root depth c = .ok p →
      p.accepts d = c.meets s d
  | .all parts, p, h => by
    obtain ⟨-, clauses, hclauses, rfl⟩ := ofNode_all_eq_ok_iff.mp h
    have hmap := map_accepts_ofNodes hroot d (Nat.le_succ_of_le hdepth) hclauses
    have hall : clauses.all (·.accepts d) = parts.all (Condition.meets s d) := by
      simpa using congrArg (·.all id) hmap
    rw [Condition.meets_all, ← hall]
    cases clauses with
    | nil => simp
    | cons q qs => exact accepts_all _ d
  | .any parts, p, h => by
    obtain ⟨-, clauses, hclauses, rfl⟩ := ofNode_any_eq_ok_iff.mp h
    have hmap := map_accepts_ofNodes hroot d (Nat.le_succ_of_le hdepth) hclauses
    have hany : clauses.any (·.accepts d) = parts.any (Condition.meets s d) := by
      simpa using congrArg (·.any id) hmap
    have hempty : clauses.isEmpty = parts.isEmpty := by
      simpa using congrArg List.isEmpty hmap
    rw [Condition.meets_any, ← hany, ← hempty]
    cases clauses with
    | nil => simp
    | cons q qs => exact accepts_any (List.cons_ne_nil q qs) d
  | .not part, p, h => by
    obtain ⟨-, clause, hclause, rfl⟩ := ofNode_not_eq_ok_iff.mp h
    rw [accepts_no, Condition.meets_not, accepts_ofNode hroot d (Nat.le_succ_of_le hdepth) hclause]
  | .field name operators, p, h =>
    (Condition.meets_field (ofCondition_field_of_ofNode hroot hdepth h) d).symm

theorem map_accepts_ofNodes (hroot : s.root = .ok root) (d : Document) {depth : Nat}
    (hdepth : 1 ≤ depth) : ∀ {cs : List Condition} {ps : List Predicate},
      ofNodes s root depth cs = .ok ps → ps.map (·.accepts d) = cs.map (Condition.meets s d)
  | [], ps, h => by
    cases h
    rfl
  | c :: cs, ps, h => by
    simp only [ofNodes, bind_eq_ok_iff, pure_eq_ok_iff] at h
    obtain ⟨q, hq, qs, hqs, rfl⟩ := h
    rw [List.map_cons, List.map_cons, accepts_ofNode hroot d hdepth hq,
      map_accepts_ofNodes hroot d hdepth hqs]

end

/-! ### Filters -/

/-- A filter has a predicate if there is no condition in it, or if there is an entity and every
condition has a predicate. -/
theorem ofFilter_eq_ok_iff {filter : List Condition} {p : Predicate} :
    ofFilter s filter = .ok p ↔
      (filter = [] ∧ matchAll = p) ∨
        filter ≠ [] ∧ ∃ root, s.root = .ok root ∧
          ∃ clauses, ofNodes s root 1 filter = .ok clauses ∧ all clauses = p := by
  cases filter with
  | nil => simp [ofFilter]
  | cons c cs => simp [ofFilter]

/-- A filter has a predicate exactly if each of its conditions has one. -/
theorem exists_ofFilter_eq_ok_iff {filter : List Condition} :
    (∃ p, ofFilter s filter = .ok p) ↔ ∀ c ∈ filter, ∃ p, ofCondition s c = .ok p := by
  simp only [ofFilter_eq_ok_iff, ofNodes_eq_mapM, ofCondition_eq_ok_iff]
  constructor
  · rintro ⟨p, ⟨rfl, -⟩ | ⟨-, root, hroot, clauses, hclauses, -⟩⟩ c hc
    · cases hc
    · obtain ⟨q, hq⟩ := exists_mapM_eq_ok_iff.mp ⟨clauses, hclauses⟩ c hc
      exact ⟨q, root, hroot, hq⟩
  · intro h
    rcases filter with _ | ⟨c, cs⟩
    · exact ⟨matchAll, .inl ⟨rfl, rfl⟩⟩
    · obtain ⟨-, root, hroot, -⟩ := h c List.mem_cons_self
      have heach : ∀ d ∈ c :: cs, ∃ q, ofNode s root 1 d = .ok q := by
        intro d hd
        obtain ⟨q, root', hroot', hq⟩ := h d hd
        rw [hroot] at hroot'
        cases hroot'
        exact ⟨q, hq⟩
      obtain ⟨clauses, hclauses⟩ := exists_mapM_eq_ok_iff.mpr heach
      exact ⟨all clauses, .inr ⟨List.cons_ne_nil c cs, root, hroot, clauses, hclauses, rfl⟩⟩

/-- **Compiling a filter keeps its meaning.** -/
theorem accepts_ofFilter {filter : List Condition} {p : Predicate}
    (h : ofFilter s filter = .ok p) (d : Document) :
    p.accepts d = filter.all (Condition.meets s d) := by
  rcases ofFilter_eq_ok_iff.mp h with ⟨rfl, rfl⟩ | ⟨-, root, hroot, clauses, hclauses, rfl⟩
  · simp
  · have hmap := map_accepts_ofNodes hroot d (Nat.le_refl 1) hclauses
    rw [accepts_all]
    simpa using congrArg (·.all id) hmap

end Predicate

/-- **Which documents a filter finds.** In any list of documents, the predicate of a filter matches
the rows whose documents meet every condition of the filter, and whether a row is matched does not
depend on the documents in other rows. The filter without conditions always has a predicate, which
matches every row. -/
theorem has_rows_ofFilter_iff {s : Scope} {filter : List Condition} {p : Predicate}
    (h : Predicate.ofFilter s filter = .ok p) (docs : List Document) (row : Nat) :
    ((p.rows docs).has row = true ↔
        ∃ d, docs[row]? = some d ∧ ∀ c ∈ filter, c.meets s d = true) ∧
      (p.rows docs).has row = docs[row]?.any (fun d => (p.rows [d]).has 0) ∧
      ∃ q, Predicate.ofFilter s [] = .ok q ∧
        ((q.rows docs).has row = true ↔ row < docs.length) := by
  have hrow := Predicate.has_rows docs row p
  refine ⟨?_, hrow, .matchAll, rfl, ?_⟩
  · rw [hrow, Option.any_eq_true]
    simp only [Predicate.accepts_ofFilter h, List.all_eq_true]
  · rw [Predicate.rows, RowSet.has_upTo, decide_eq_true_iff]

/-- The filter for the tasks of others than Ann matches the second of two tasks. The group without
parts under the negation asks for nothing. -/
theorem has_rows_not_ann :
    Predicate.ofFilter ⟨taskCatalog, "task", 3⟩
        [.not (.all [.one "owner" (.eq (.string "ann")), .any []])] =
      .ok (.all [.no (.all [.term "owner" (.string "ann"), .matchAll])]) ∧
    ((Predicate.all [.no (.all [.term "owner" (.string "ann"), .matchAll])]).rows
      [task "ann", task "bob"]).has 1 = true := by
  have h : Predicate.ofFilter ⟨taskCatalog, "task", 3⟩
      [.not (.all [.one "owner" (.eq (.string "ann")), .any []])] =
    .ok (.all [.no (.all [.term "owner" (.string "ann"), .matchAll])]) := rfl
  exact ⟨h, (has_rows_ofFilter_iff h _ 1).1.mpr ⟨task "bob", rfl, by decide +kernel⟩⟩

end GuardedSearch
