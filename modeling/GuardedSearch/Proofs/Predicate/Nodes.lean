import GuardedSearch.Condition
import GuardedSearch.Predicate

/-!
# The nodes of a tree

What holds of every node of a predicate is said of the list of its nodes, in which each node comes
before its clauses. The leaves are the nodes that test values; they stand in the list as they stand
in the tree, from left to right, and so do the fields of a condition in the list of its fields.

## Main definitions

* `Predicate.nodes`, `Predicate.isLeaf` — the nodes of a predicate, and which of them test values
* `Condition.fields` — the conditions on fields that a condition is made of
-/

namespace GuardedSearch

namespace Predicate

mutual

/-- The nodes of the tree, each before its clauses. -/
def nodes : Predicate → List Predicate
  | group must should mustNot minimum =>
    group must should mustNot minimum :: (nodesOf must ++ nodesOf should ++ nodesOf mustNot)
  | leaf => [leaf]

/-- The nodes of the trees of a list. -/
def nodesOf : List Predicate → List Predicate
  | [] => []
  | p :: rest => nodes p ++ nodesOf rest

end

/-- Whether a node tests values. -/
def isLeaf : Predicate → Bool
  | term _ _ | terms _ _ | startsWith _ _ | contains _ _ | range _ _ | fullText _ _ => true
  | matchAll | group _ _ _ _ => false

theorem nodes_of_isLeaf {p : Predicate} (h : p.isLeaf = true) : p.nodes = [p] := by
  cases p with
  | group | matchAll => cases h
  | term | terms | startsWith | contains | range | fullText => rfl

theorem nodesOf_of_isLeaf {ps : List Predicate} (h : ∀ p ∈ ps, p.isLeaf = true) :
    nodesOf ps = ps := by
  induction ps with
  | nil => rfl
  | cons p ps ih =>
    obtain ⟨hp, hps⟩ := List.forall_mem_cons.mp h
    rw [nodesOf, nodes_of_isLeaf hp, ih hps, List.singleton_append]

end Predicate

namespace Condition

mutual

/-- The conditions on fields that the condition is made of: the name of each field and the operators
on it. -/
def fields : Condition → List (String × List Operator)
  | all parts => fieldsOf parts
  | any parts => fieldsOf parts
  | not part => fields part
  | field name operators => [(name, operators)]

/-- The conditions on fields that the conditions of a list are made of. -/
def fieldsOf : List Condition → List (String × List Operator)
  | [] => []
  | c :: rest => fields c ++ fieldsOf rest

end

end Condition

end GuardedSearch
