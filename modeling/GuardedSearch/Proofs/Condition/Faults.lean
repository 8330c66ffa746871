import GuardedSearch.Proofs.Condition.Meaning
import GuardedSearch.Proofs.Predicate.Nodes

/-!
# What is wrong with a filter

A filter may have many faults: nodes that lie too deep, fields that there are not, values that do
not fit their fields. Compiling counts the depth on the way down and stops at the first fault, while
the depth of a condition is counted on the way up. That both come to the same is seen from the list
of all nodes in the order in which they are written, each with the depth at which it lies: a node of
that list is at fault or not whatever stands around it, a filter has a predicate if none is, and the
first one that is at fault decides the error.

A combination without parts is still a node. It can lie too deep, although it asks for nothing.

## Main definitions

* `Condition.Placed`, `Condition.preorder` — the nodes of a condition with their depths
* `Condition.Placed.fault?` — what is wrong with a node
* `SearchError.OfField` — the errors that a condition on a field can have

## Main results

* `Condition.forall_preorder_depth_le_iff` — no node lies too deep if the condition is not too deep
* `Predicate.errorOf?_ofNode` — compiling a node fails with the first fault of its list
* `first_fault_decides` — the same for a filter, with what there is to be wrong
-/

namespace GuardedSearch

namespace Condition

/-! ### Nodes in order -/

/-- A node of a condition and the depth that it lies at. -/
structure Placed where
  depth : Nat
  node : Condition

mutual

/-- The nodes of a condition that lies at the given depth, each before its parts. -/
def preorder (depth : Nat) : Condition → List Placed
  | all parts => ⟨depth, all parts⟩ :: preorderOf (depth + 1) parts
  | any parts => ⟨depth, any parts⟩ :: preorderOf (depth + 1) parts
  | not part => ⟨depth, not part⟩ :: preorder (depth + 1) part
  | field name operators => [⟨depth, field name operators⟩]

/-- The nodes of conditions that lie at the given depth. -/
def preorderOf (depth : Nat) : List Condition → List Placed
  | [] => []
  | c :: rest => preorder depth c ++ preorderOf depth rest

end

/-! ### Depth -/

mutual

theorem le_depth_of_mem_preorder {depth : Nat} : ∀ {c : Condition},
    ∀ n ∈ preorder depth c, depth ≤ n.depth
  | all parts => by
    rw [preorder]
    exact List.forall_mem_cons.mpr ⟨Nat.le_refl depth, fun n hn =>
      Nat.le_of_succ_le (le_depth_of_mem_preorderOf n hn)⟩
  | any parts => by
    rw [preorder]
    exact List.forall_mem_cons.mpr ⟨Nat.le_refl depth, fun n hn =>
      Nat.le_of_succ_le (le_depth_of_mem_preorderOf n hn)⟩
  | not part => by
    rw [preorder]
    exact List.forall_mem_cons.mpr ⟨Nat.le_refl depth, fun n hn =>
      Nat.le_of_succ_le (le_depth_of_mem_preorder n hn)⟩
  | field name operators => by
    rw [preorder]
    exact List.forall_mem_singleton.mpr (Nat.le_refl depth)

theorem le_depth_of_mem_preorderOf {depth : Nat} : ∀ {cs : List Condition},
    ∀ n ∈ preorderOf depth cs, depth ≤ n.depth
  | [], _, hn => nomatch hn
  | c :: cs, n, hn => by
    rcases List.mem_append.mp hn with hn | hn
    · exact le_depth_of_mem_preorder n hn
    · exact le_depth_of_mem_preorderOf n hn

end

theorem depthOfParts_le_iff {cs : List Condition} {m : Nat} :
    depthOfParts cs ≤ m ↔ ∀ c ∈ cs, c.depth ≤ m := by
  induction cs with
  | nil => simp [depthOfParts]
  | cons c cs ih => rw [depthOfParts, Nat.max_le, ih, List.forall_mem_cons]

/-- One level for a combination, and what is left is for its parts. -/
theorem add_depthOfParts_le_iff {cs : List Condition} {depth m : Nat} :
    depth + (1 + depthOfParts cs) ≤ m + 1 ↔
      depth ≤ m ∧ ∀ c ∈ cs, depth + 1 + c.depth ≤ m + 1 := by
  constructor
  · intro h
    have hparts : depthOfParts cs ≤ m - depth := by omega
    refine ⟨by omega, fun c hc => ?_⟩
    have := depthOfParts_le_iff.mp hparts c hc
    omega
  · rintro ⟨hdepth, hcs⟩
    have hparts : depthOfParts cs ≤ m - depth := depthOfParts_le_iff.mpr fun c hc => by
      have := hcs c hc
      omega
    omega

mutual

/-- **The two ways to count depth agree.** No node of a condition lies deeper than `m`, counted down
from where the condition lies, if there is room for the depth that is counted up from its leaves. -/
theorem forall_preorder_depth_le_iff {m : Nat} : ∀ {c : Condition} {depth : Nat},
    (∀ n ∈ preorder depth c, n.depth ≤ m) ↔ depth + c.depth ≤ m + 1
  | all parts, depth => by
    rw [preorder, List.forall_mem_cons, forall_preorderOf_depth_le_iff, Condition.depth,
      add_depthOfParts_le_iff]
  | any parts, depth => by
    rw [preorder, List.forall_mem_cons, forall_preorderOf_depth_le_iff, Condition.depth,
      add_depthOfParts_le_iff]
  | not part, depth => by
    rw [preorder, List.forall_mem_cons, forall_preorder_depth_le_iff, Condition.depth]
    dsimp only
    omega
  | field name operators, depth => by
    rw [preorder, List.forall_mem_singleton, Condition.depth]
    exact Nat.add_le_add_iff_right.symm

theorem forall_preorderOf_depth_le_iff {m : Nat} : ∀ {cs : List Condition} {depth : Nat},
    (∀ n ∈ preorderOf depth cs, n.depth ≤ m) ↔ ∀ c ∈ cs, depth + c.depth ≤ m + 1
  | [], _ => by simp [preorderOf]
  | c :: cs, depth => by
    rw [preorderOf, List.forall_mem_append, forall_preorder_depth_le_iff,
      forall_preorderOf_depth_le_iff, List.forall_mem_cons]

end

/-! ### Fields -/

variable {leaf : String × List Operator}

mutual

/-- The conditions on fields that a condition is made of are its nodes without parts. -/
theorem mem_fields_iff : ∀ {c : Condition} (depth : Nat),
    leaf ∈ fields c ↔ ∃ n ∈ preorder depth c, n.node = field leaf.1 leaf.2
  | all parts, depth => by
    rw [fields, preorder, mem_fieldsOf_iff (depth + 1)]
    simp
  | any parts, depth => by
    rw [fields, preorder, mem_fieldsOf_iff (depth + 1)]
    simp
  | not part, depth => by
    rw [fields, preorder, mem_fields_iff (depth + 1)]
    simp
  | field name operators, depth => by
    rw [fields, preorder]
    simp [Prod.ext_iff, eq_comm]

theorem mem_fieldsOf_iff : ∀ {cs : List Condition} (depth : Nat),
    leaf ∈ fieldsOf cs ↔ ∃ n ∈ preorderOf depth cs, n.node = field leaf.1 leaf.2
  | [], depth => by simp [fieldsOf, preorderOf]
  | c :: cs, depth => by
    rw [fieldsOf, preorderOf, List.mem_append, mem_fields_iff depth, mem_fieldsOf_iff depth]
    simp only [List.mem_append, or_and_right, exists_or]

end

/-! ### Faults -/

/-- What is wrong with a condition whatever its parts are: a condition on a field may have no
predicate by itself, and a combination is in order. -/
def ownFault? (s : Scope) : Condition → Option SearchError
  | field name operators => errorOf? (Predicate.ofCondition s (field name operators))
  | all _ | any _ | not _ => none

/-- What is wrong with a node: that it lies too deep, or else its own fault. -/
def Placed.fault? (s : Scope) (n : Placed) : Option SearchError :=
  if s.maxDepth < n.depth then some (.invalidRequest (.tooDeep s.maxDepth))
  else n.node.ownFault? s

end Condition

/-! ### Errors of fields -/

/-- The error is one that a condition on the field can have: there is no such field, or an operator
or a value does not fit its type. -/
def SearchError.OfField (root : Entity) (name : String) (e : SearchError) : Prop :=
  (∃ field, e = .fieldNotFound field root.name) ∨ ∃ type value, e = .typeMismatch name type value

open SearchError (OfField)

theorem Catalog.pathsFrom_ofField (root : Entity) (name : String) (p : OwnedProperty) :
    FailsWith (OfField root name) (pathsFrom root p) := by
  refine FailsWith.map ?_ _
  rw [pathFrom]
  split
  · exact failsWith_ok _
  · split
    · exact failsWith_ok _
    · exact failsWith_error (.inl ⟨_, rfl⟩)

theorem Catalog.target_ofField (c : Catalog) (root : Entity) (name : String) :
    FailsWith (OfField root name) (c.target root name) := by
  have hresolve : FailsWith (OfField root name) (c.resolve root name) := by
    rw [resolve]
    split
    · exact failsWith_ok _
    · split
      · exact failsWith_ok _
      · exact failsWith_error (.inl ⟨_, rfl⟩)
  refine hresolve.bind fun resolved => ?_
  cases resolved with
  | property p => exact (pathsFrom_ofField root name p).bind fun _ => failsWith_ok _
  | path path => exact failsWith_ok _

section

variable (root : Entity) (t : Target) (field : String)

theorem Target.coerce_ofField (v : Literal) :
    FailsWith (OfField root field) (t.coerce field v) := by
  rw [coerce]
  split
  · rw [Literal.coerce]
    split
    · exact failsWith_ok _
    · exact failsWith_error (.inr ⟨_, _, rfl⟩)
  · exact failsWith_ok _

theorem Target.require_ofField (admits : DataType → Bool) (v : Literal) :
    FailsWith (OfField root field) (t.require admits field v) := by
  rw [require]
  split
  · split
    · exact failsWith_ok _
    · exact failsWith_error (.inr ⟨_, _, rfl⟩)
  · exact failsWith_ok _

theorem Target.predicate_ofField (operators : List Operator) :
    FailsWith (OfField root field) (t.predicate field operators) := by
  have hcoerce := t.coerce_ofField root field
  have hbound : ∀ v, FailsWith (OfField root field) (t.boundValue field v) := fun v =>
    (t.require_ofField root field _ v).bind fun _ => hcoerce v
  refine FailsWith.bind (FailsWith.mapM (fun op => ?_) _) fun _ => failsWith_ok _
  cases op with
  | eq v => exact (hcoerce v).bind fun _ => failsWith_ok _
  | contains part => exact (t.require_ofField root field _ _).bind fun _ => failsWith_ok _
  | startsWith start => exact (t.require_ofField root field _ _).bind fun _ => failsWith_ok _
  | oneOf vs =>
    cases vs with
    | nil => exact failsWith_ok _
    | cons v vs => exact (FailsWith.mapM hcoerce _).bind fun _ => failsWith_ok _
  | gt v | gte v | lt v | lte v => exact (hbound v).bind fun _ => failsWith_ok _

end

namespace Predicate

variable {s : Scope} {root : Entity}

theorem ofField_ofField (name : String) (operators : List Operator) :
    FailsWith (OfField root name) (ofField s root name operators) :=
  (s.catalog.target_ofField root name).bind fun t => t.predicate_ofField root name operators

/-! ### The first fault -/

section

open Condition (preorder preorderOf Placed)

theorem errorOf?_checkDepth (depth : Nat) :
    errorOf? (checkDepth s depth) =
      if s.maxDepth < depth then some (.invalidRequest (.tooDeep s.maxDepth)) else none := by
  rw [checkDepth]
  split <;> rfl

theorem Placed.fault?_eq_or (depth : Nat) (c : Condition) :
    Placed.fault? s ⟨depth, c⟩ = (errorOf? (checkDepth s depth)).or (c.ownFault? s) := by
  rw [errorOf?_checkDepth, Placed.fault?]
  split <;> rfl

/-- A combination has no fault but its depth, so its parts are looked at next. -/
theorem findSome?_fault?_cons {c : Condition} (h : c.ownFault? s = none) (depth : Nat)
    (rest : List Placed) :
    (⟨depth, c⟩ :: rest).findSome? (Placed.fault? s) =
      (errorOf? (checkDepth s depth)).or (rest.findSome? (Placed.fault? s)) := by
  rw [List.findSome?_cons, Placed.fault?_eq_or, h, Option.or_none]
  cases errorOf? (checkDepth s depth) <;> rfl

/-- A condition on a field that does not lie too deep has the fault that it has by itself. -/
theorem errorOf?_ofNode_field (hroot : s.root = .ok root) {depth : Nat} (hdepth : 1 ≤ depth)
    (name : String) (operators : List Operator) :
    errorOf? (ofNode s root depth (.field name operators)) =
      Placed.fault? s ⟨depth, .field name operators⟩ := by
  rw [Placed.fault?, Condition.ownFault?, ofCondition_of_root hroot, ofNode, ofNode,
    errorOf?_bind fun _ => rfl, errorOf?_checkDepth]
  split
  case isTrue => rfl
  case isFalse h =>
    have hone : checkDepth s 1 = .ok () := checkDepth_eq_ok_iff.mpr (by omega)
    rw [hone, ok_bind, Option.none_or]

mutual

/-- **Compiling a node fails with the first fault.** -/
theorem errorOf?_ofNode (hroot : s.root = .ok root) : ∀ {c : Condition} {depth : Nat}, 1 ≤ depth →
    errorOf? (ofNode s root depth c) = (preorder depth c).findSome? (Placed.fault? s)
  | .all parts, depth, hdepth => by
    rw [ofNode, errorOf?_bind fun _ => errorOf?_bind_pure _ _,
      errorOf?_ofNodes hroot (Nat.le_succ_of_le hdepth), preorder, findSome?_fault?_cons rfl]
  | .any parts, depth, hdepth => by
    rw [ofNode, errorOf?_bind fun _ => errorOf?_bind_pure _ _,
      errorOf?_ofNodes hroot (Nat.le_succ_of_le hdepth), preorder, findSome?_fault?_cons rfl]
  | .not part, depth, hdepth => by
    rw [ofNode, errorOf?_bind fun _ => errorOf?_bind_pure _ _,
      errorOf?_ofNode hroot (Nat.le_succ_of_le hdepth), preorder, findSome?_fault?_cons rfl]
  | .field name operators, depth, hdepth => by
    rw [errorOf?_ofNode_field hroot hdepth, preorder, List.findSome?_singleton]

theorem errorOf?_ofNodes (hroot : s.root = .ok root) : ∀ {cs : List Condition} {depth : Nat},
    1 ≤ depth →
      errorOf? (ofNodes s root depth cs) = (preorderOf depth cs).findSome? (Placed.fault? s)
  | [], depth, _ => rfl
  | c :: cs, depth, hdepth => by
    rw [ofNodes, errorOf?_bind fun _ => errorOf?_bind_pure _ _, errorOf?_ofNode hroot hdepth,
      errorOf?_ofNodes hroot hdepth, preorderOf, List.findSome?_append]

end

/-- What is wrong with a filter is what is wrong with the first of its nodes that is at fault. -/
theorem errorOf?_ofFilter (hroot : s.root = .ok root) (filter : List Condition) :
    errorOf? (ofFilter s filter) = (preorderOf 1 filter).findSome? (Placed.fault? s) := by
  rw [ofFilter]
  split
  case isTrue h => rw [List.isEmpty_iff.mp h]; rfl
  case isFalse =>
    rw [hroot, ok_bind, errorOf?_bind_pure, errorOf?_ofNodes hroot (Nat.le_refl 1)]

/-- A condition on a field has no other errors than fields have, if any condition is let in. -/
theorem ofField_of_ofCondition (hroot : s.root = .ok root) (hdepth : 1 ≤ s.maxDepth) {name : String}
    {operators : List Operator} {e : SearchError}
    (h : ofCondition s (.field name operators) = .error e) : e.OfField root name := by
  rw [ofCondition_of_root hroot, ofNode, checkDepth_eq_ok_iff.mpr hdepth, ok_bind] at h
  exact ofField_ofField name operators e h

end

end Predicate

namespace Condition.Placed

variable {s : Scope} {n : Placed}

theorem fault?_eq_none_iff :
    n.fault? s = none ↔ n.depth ≤ s.maxDepth ∧
      ∀ name operators, n.node = .field name operators →
        ∃ p, Predicate.ofCondition s (.field name operators) = .ok p := by
  obtain ⟨depth, node⟩ := n
  rw [fault?]
  split
  case isTrue h =>
    have hdeep : ¬ depth ≤ s.maxDepth := Nat.not_le_of_lt h
    simp [hdeep]
  case isFalse h =>
    cases node with
    | field name operators => simp [ownFault?, Nat.le_of_not_lt h]
    | all | any | not => simp [ownFault?, Nat.le_of_not_lt h]

/-- A node that does not lie too deep has a fault only if it is a condition on a field, and then one
that fields have. -/
theorem ofField_of_fault? {root : Entity} (hroot : s.root = .ok root) (hdepth : 1 ≤ n.depth)
    {e : SearchError} (h : n.fault? s = some e) :
    if s.maxDepth < n.depth then e = .invalidRequest (.tooDeep s.maxDepth)
    else ∃ name operators, n.node = .field name operators ∧
      Predicate.ofCondition s n.node = .error e ∧ e.OfField root name := by
  obtain ⟨depth, node⟩ := n
  rw [fault?] at h
  split
  case isTrue hdeep =>
    rw [if_pos hdeep] at h
    exact (Option.some.inj h).symm
  case isFalse hdeep =>
    rw [if_neg hdeep] at h
    cases node with
    | field name operators =>
      have herror := errorOf?_eq_some_iff.mp h
      have hmax : 1 ≤ s.maxDepth := Nat.le_trans hdepth (Nat.le_of_not_lt hdeep)
      exact ⟨name, operators, rfl, herror, Predicate.ofField_of_ofCondition hroot hmax herror⟩
    | all | any | not => cases h

end Condition.Placed

/-- A filter fails for its depth or with an error of one of its fields. -/
theorem Predicate.ofFilter_fails {s : Scope} {root : Entity} (hroot : s.root = .ok root)
    (filter : List Condition) :
    FailsWith (fun e => e = .invalidRequest (.tooDeep s.maxDepth) ∨ ∃ name, e.OfField root name)
      (ofFilter s filter) := by
  intro e h
  rw [← errorOf?_eq_some_iff, errorOf?_ofFilter hroot] at h
  obtain ⟨n, hn, hfault⟩ := List.exists_of_findSome?_eq_some h
  have herror := n.ofField_of_fault? hroot (Condition.le_depth_of_mem_preorderOf n hn) hfault
  split at herror
  case isTrue => exact .inl herror
  case isFalse =>
    obtain ⟨name, -, -, -, hfield⟩ := herror
    exact .inr ⟨name, hfield⟩

open Condition (preorderOf fieldsOf) in
open Condition.Placed (fault?_eq_none_iff) in
/-- **The first fault decides.** A filter has a predicate exactly if no condition in it is too deep
and each condition on a field, wherever it stands, has a predicate by itself; and no condition is
too deep exactly if no node lies too deep. If it has none, the error is that of the first node at
fault in the order in which the nodes are written, each before its parts. That is the error for the
depth if the node lies too deep, and else the one that a condition on a field has by itself: that
there is no such field, or that something does not fit its type. -/
theorem first_fault_decides {s : Scope} {root : Entity} (hroot : s.root = .ok root)
    (filter : List Condition) :
    ((∃ p, Predicate.ofFilter s filter = .ok p) ↔
        (∀ c ∈ filter, c.depth ≤ s.maxDepth) ∧
          ∀ leaf ∈ fieldsOf filter, ∃ p, Predicate.ofCondition s (.field leaf.1 leaf.2) = .ok p) ∧
      ((∀ c ∈ filter, c.depth ≤ s.maxDepth) ↔ ∀ n ∈ preorderOf 1 filter, n.depth ≤ s.maxDepth) ∧
      (∀ e, Predicate.ofFilter s filter = .error e ↔
        ∃ before n after, preorderOf 1 filter = before ++ n :: after ∧ n.fault? s = some e ∧
          ∀ m ∈ before, m.fault? s = none) ∧
      ∀ n ∈ preorderOf 1 filter, ∀ e, n.fault? s = some e →
        if s.maxDepth < n.depth then e = .invalidRequest (.tooDeep s.maxDepth)
        else ∃ name operators, n.node = .field name operators ∧
          Predicate.ofCondition s n.node = .error e ∧ e.OfField root name := by
  have hfirst := Predicate.errorOf?_ofFilter hroot filter
  have hdepth : (∀ n ∈ preorderOf 1 filter, n.depth ≤ s.maxDepth) ↔
      ∀ c ∈ filter, c.depth ≤ s.maxDepth := by
    rw [Condition.forall_preorderOf_depth_le_iff]
    simp only [Nat.add_comm 1, Nat.add_le_add_iff_right]
  refine ⟨?_, hdepth.symm, fun e => ?_, fun n hn e h => ?_⟩
  · rw [← errorOf?_eq_none_iff, hfirst, List.findSome?_eq_none_iff, ← hdepth]
    constructor
    · intro hnone
      refine ⟨fun n hn => (fault?_eq_none_iff.mp (hnone n hn)).1, fun leaf hleaf => ?_⟩
      obtain ⟨n, hn, hnode⟩ := (Condition.mem_fieldsOf_iff 1).mp hleaf
      exact (fault?_eq_none_iff.mp (hnone n hn)).2 _ _ hnode
    · rintro ⟨hdeep, hleaves⟩ n hn
      refine fault?_eq_none_iff.mpr ⟨hdeep n hn, fun name operators hnode => ?_⟩
      exact hleaves (name, operators) ((Condition.mem_fieldsOf_iff 1).mpr ⟨n, hn, hnode⟩)
  · rw [← errorOf?_eq_some_iff, hfirst, List.findSome?_eq_some_iff]
  · exact n.ofField_of_fault? hroot (Condition.le_depth_of_mem_preorderOf n hn) h

/-- Of two faults the one that is written first is reported. The combination under the negation lies
too deep, though it has no parts; but before it stands a field that tasks do not have. -/
theorem first_fault_unknown_field :
    Scope.root ⟨taskCatalog, "task", 2⟩ = .ok taskEntity ∧
      (Condition.any [.one "state" (.eq (.string "open")), .not (.all [])]).depth = 3 ∧
      Predicate.ofFilter ⟨taskCatalog, "task", 2⟩
          [.not (.one "owner" (.eq (.string "ann"))),
            .any [.one "state" (.eq (.string "open")), .not (.all [])]] =
        .error (.fieldNotFound "state" "Task") := by
  have hroot : Scope.root ⟨taskCatalog, "task", 2⟩ = .ok taskEntity := rfl
  refine ⟨hroot, rfl, ?_⟩
  refine ((first_fault_decides hroot _).2.2.1 _).mpr
    ⟨[⟨1, .not (.one "owner" (.eq (.string "ann")))⟩, ⟨2, .one "owner" (.eq (.string "ann"))⟩,
        ⟨1, .any [.one "state" (.eq (.string "open")), .not (.all [])]⟩],
      ⟨2, .one "state" (.eq (.string "open"))⟩, [⟨2, .not (.all [])⟩, ⟨3, .all []⟩], rfl, rfl, ?_⟩
  simp only [List.forall_mem_cons]
  exact ⟨rfl, rfl, rfl, List.forall_mem_nil _⟩

end GuardedSearch
