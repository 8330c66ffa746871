import GuardedSearch.Proofs.Condition.Meaning
import GuardedSearch.Proofs.Literal.Coercion
import GuardedSearch.Proofs.Predicate.Nodes

/-!
# Compiled predicates are well typed

Each operator checks the type of its field and coerces its values on its own, so that nothing but
the cases themselves shows that no check is missing. What the operators on a field become is
described here without the compiler: for every kind of leaf, at which of the two paths it tests, for
which types it occurs, and from which operator its values come. A field that no property describes
has no type; then the values are the literals of the filter as they are. The texts of `startsWith`
and `contains` are no literals and are in lower case.

The description is sound for one operator (`Target.sound_of_demands`), is kept when operators are
put together (`Demands.Sound.and`), and is carried from the fields of a condition to its predicate.

## Main definitions

* `Literal.Becomes` — what a literal becomes in a predicate
* `Target.Leaf` — the leaves that operators on a field can become
* `Predicate.WellTyped` — nodes that are made of such leaves, field by field

## Main results

* `Predicate.wellTyped_of_compiled` — what conditions and filters become is well typed
-/

namespace GuardedSearch

/-! ### Values -/

/-- What stands in a predicate for a literal of a filter: the value of the field's type that the
literal stands for, or the literal itself if the field has no type. -/
inductive Literal.Becomes : Option DataType → Literal → Literal → Prop
  | typed {type : DataType} {l v : Literal} (coerced : l.coerce? type = some v)
      (value : v.HasType type) : Becomes (some type) l v
  | untyped (l : Literal) : Becomes none l l

/-! ### Leaves -/

namespace Target

/-- The field has no type, or one of the types of the list. -/
def Admits (t : Target) (types : List DataType) : Prop :=
  ∀ type, t.type = some type → type ∈ types

/-- The types whose values have an order. -/
def orderedTypes : List DataType := [.int, .double, .date]

/-- If the bound is there, it comes from an operator of the given kind. -/
def BoundFrom (t : Target) (operators : List Operator) (kind : Literal → Operator)
    (bound : Option Literal) : Prop :=
  ∀ v, bound = some v → ∃ l, kind l ∈ operators ∧ Literal.Becomes t.type l v

/-- Each bound that is there comes from an operator of its own kind. -/
structure BoundedBy (t : Target) (operators : List Operator) (bounds : Bounds) : Prop where
  gte : t.BoundFrom operators .gte bounds.gte
  gt : t.BoundFrom operators .gt bounds.gt
  lte : t.BoundFrom operators .lte bounds.lte
  lt : t.BoundFrom operators .lt bounds.lt

/-- The leaves that the operators on a field can become. -/
inductive Leaf (t : Target) (operators : List Operator) : Predicate → Prop
  | term {l v : Literal} (op : .eq l ∈ operators) (value : Literal.Becomes t.type l v) :
      Leaf t operators (.term t.paths.exact v)
  | terms {ls vs : List Literal} (op : .oneOf ls ∈ operators) (nonempty : vs ≠ [])
      (values : List.Forall₂ (Literal.Becomes t.type) ls vs) :
      Leaf t operators (.terms t.paths.exact vs)
  | startsWith {start : String} (op : .startsWith start ∈ operators) (types : t.Admits [.string]) :
      Leaf t operators (.startsWith t.paths.exact (Text.lower start))
  | contains {part : String} (op : .contains part ∈ operators) (types : t.Admits [.string]) :
      Leaf t operators (.contains t.paths.text (Text.lower part))
  | range {bounds : Bounds} (nonempty : bounds.isEmpty = false) (types : t.Admits orderedTypes)
      (values : t.BoundedBy operators bounds) : Leaf t operators (.range t.paths.exact bounds)

variable {t : Target} {operators : List Operator} {p : Predicate}

theorem Leaf.isLeaf (h : t.Leaf operators p) : p.isLeaf = true := by
  cases h <;> rfl

/-- A bridge has no values, and so nothing can be tested of it. -/
theorem Leaf.type_ne_entity (h : t.Leaf operators p) : t.type ≠ some .entity := by
  obtain ⟨paths, type⟩ := t
  rintro rfl
  cases h with
  | term _ value =>
    obtain ⟨-, ⟨⟩⟩ := value
  | terms _ nonempty values =>
    cases values with
    | nil => exact nonempty rfl
    | cons value _ => obtain ⟨-, ⟨⟩⟩ := value
  | startsWith _ types | contains _ types => exact absurd (types .entity rfl) (by decide)
  | range _ types => exact absurd (types .entity rfl) (by decide)

/-! ### Bounds -/

section

variable {kind : Literal → Operator}

theorem boundFrom_none : t.BoundFrom operators kind none := by
  rintro _ ⟨⟩

theorem boundFrom_some {l v : Literal} (hop : kind l ∈ operators)
    (h : Literal.Becomes t.type l v) : t.BoundFrom operators kind (some v) := by
  rintro _ ⟨⟩
  exact ⟨l, hop, h⟩

theorem BoundFrom.or {bound other : Option Literal} (h : t.BoundFrom operators kind bound)
    (hother : t.BoundFrom operators kind other) :
    t.BoundFrom operators kind (bound.or other) := by
  intro v hv
  rcases Option.or_eq_some_iff.mp hv with hv | ⟨-, hv⟩
  · exact h v hv
  · exact hother v hv

end

theorem boundedBy_none (t : Target) (operators : List Operator) : t.BoundedBy operators .none :=
  ⟨boundFrom_none, boundFrom_none, boundFrom_none, boundFrom_none⟩

/-! ### Demands -/

variable {field : String}

theorem becomes_of_coerce {l v : Literal} (h : t.coerce field l = .ok v) :
    Literal.Becomes t.type l v := by
  obtain ⟨paths, type⟩ := t
  cases type with
  | none =>
    cases h
    exact .untyped l
  | some type =>
    have hvalue : l.coerce? type = some v := by
      simp only [coerce, Literal.coerce] at h
      cases hcoerced : l.coerce? type with
      | none =>
        rw [hcoerced] at h
        cases h
      | some w =>
        rw [hcoerced] at h
        cases h
        rfl
    exact .typed hvalue (Literal.hasType_of_coerce? hvalue)

theorem admits_of_require {admits : DataType → Bool} {types : List DataType}
    (hadmits : ∀ type, admits type = true → type ∈ types) {l : Literal}
    (h : t.require admits field l = .ok ()) : t.Admits types := by
  intro type htype
  rw [require, htype] at h
  by_cases hpasses : admits type = true
  · exact hadmits type hpasses
  · simp [hpasses] at h

theorem admits_string_of_require {l : Literal} (h : t.require DataType.hasText field l = .ok ()) :
    t.Admits [.string] :=
  admits_of_require (fun type => by cases type <;> decide) h

/-- A value to compare with is one of a type with an order. -/
theorem of_boundValue {l v : Literal} (h : t.boundValue field l = .ok v) :
    t.Admits orderedTypes ∧ Literal.Becomes t.type l v := by
  obtain ⟨hrequire, hcoerce⟩ := bind_unit_eq_ok_iff.mp h
  exact ⟨admits_of_require (fun type => by cases type <;> decide) hrequire,
    becomes_of_coerce hcoerce⟩

end Target

/-- Demands that the operators on a field can give rise to. -/
structure Demands.Sound (t : Target) (operators : List Operator) (d : Demands) : Prop where
  clauses : ∀ p ∈ d.clauses, t.Leaf operators p
  types : d.bounds.isEmpty = false → t.Admits Target.orderedTypes
  bounds : t.BoundedBy operators d.bounds

namespace Demands

variable {t : Target} {operators : List Operator} {d e : Demands}

theorem sound_none (t : Target) (operators : List Operator) : Sound t operators none where
  clauses := List.forall_mem_nil _
  types := nofun
  bounds := Target.boundedBy_none t operators

theorem sound_clause {p : Predicate} (h : t.Leaf operators p) : Sound t operators (clause p) where
  clauses := List.forall_mem_singleton.mpr h
  types := nofun
  bounds := Target.boundedBy_none t operators

theorem sound_within {b : Bounds} (htypes : t.Admits Target.orderedTypes)
    (h : t.BoundedBy operators b) : Sound t operators (within b) where
  clauses := List.forall_mem_nil _
  types := fun _ => htypes
  bounds := h

/-- Putting demands together invents no bounds. -/
theorem Sound.and (hd : d.Sound t operators) (he : e.Sound t operators) :
    (d.and e).Sound t operators where
  clauses := List.forall_mem_append.mpr ⟨hd.clauses, he.clauses⟩
  types := by
    intro h
    -- If neither side has a bound, both together have none.
    by_cases hempty : d.bounds.isEmpty = false
    · exact hd.types hempty
    · refine he.types ?_
      by_contra hnone
      simp only [Bool.not_eq_false, Bounds.isEmpty, Bool.and_eq_true, Option.isNone_iff_eq_none]
        at hempty hnone
      simp [Demands.and, Bounds.isEmpty, hempty, hnone] at h
  bounds :=
    { gte := he.bounds.gte.or hd.bounds.gte
      gt := he.bounds.gt.or hd.bounds.gt
      lte := he.bounds.lte.or hd.bounds.lte
      lt := he.bounds.lt.or hd.bounds.lt }

theorem sound_foldl_and {ds : List Demands} (hd : d.Sound t operators)
    (h : ∀ e ∈ ds, e.Sound t operators) : (ds.foldl Demands.and d).Sound t operators := by
  induction ds generalizing d with
  | nil => exact hd
  | cons e ds ih =>
    obtain ⟨he, hds⟩ := List.forall_mem_cons.mp h
    exact ih (hd.and he) hds

theorem Sound.leaf_of_mem_allClauses (h : d.Sound t operators) :
    ∀ p ∈ d.allClauses t.paths, t.Leaf operators p := by
  rw [allClauses]
  split
  · exact h.clauses
  case isFalse hempty =>
    have hempty : d.bounds.isEmpty = false := by simpa using hempty
    refine List.forall_mem_append.mpr ⟨h.clauses, List.forall_mem_singleton.mpr ?_⟩
    exact .range hempty (h.types hempty) h.bounds

end Demands

/-- The demand of a bound is sound if the bound is of the kind of the operator. -/
theorem Target.sound_of_bound {t : Target} {field : String} {operators : List Operator}
    {l : Literal}
    {make : Literal → Bounds} {d : Demands}
    (h : (return Demands.within (make (← t.boundValue field l))) = Except.ok d)
    (hmake : ∀ v, Literal.Becomes t.type l v → t.BoundedBy operators (make v)) :
    d.Sound t operators := by
  simp only [bind_eq_ok_iff, pure_eq_ok_iff] at h
  obtain ⟨v, hv, rfl⟩ := h
  obtain ⟨htypes, hbecomes⟩ := of_boundValue hv
  exact Demands.sound_within htypes (hmake v hbecomes)

/-- **What one operator demands is sound.** -/
theorem Target.sound_of_demands {t : Target} {field : String} {operators : List Operator}
    {op : Operator} (hop : op ∈ operators) {d : Demands} (h : t.demands field op = .ok d) :
    d.Sound t operators := by
  cases op with
  | eq l =>
    simp only [demands, bind_eq_ok_iff, pure_eq_ok_iff] at h
    obtain ⟨v, hv, rfl⟩ := h
    exact Demands.sound_clause (.term hop (becomes_of_coerce hv))
  | contains part =>
    obtain ⟨hrequire, hd⟩ := bind_unit_eq_ok_iff.mp h
    cases hd
    exact Demands.sound_clause (.contains hop (admits_string_of_require hrequire))
  | startsWith start =>
    obtain ⟨hrequire, hd⟩ := bind_unit_eq_ok_iff.mp h
    cases hd
    exact Demands.sound_clause (.startsWith hop (admits_string_of_require hrequire))
  | oneOf ls =>
    cases ls with
    | nil =>
      cases h
      exact Demands.sound_none t operators
    | cons l ls =>
      simp only [demands, bind_eq_ok_iff, pure_eq_ok_iff, mapM_eq_ok_iff] at h
      obtain ⟨vs, hvs, rfl⟩ := h
      refine Demands.sound_clause (.terms hop ?_ (hvs.imp fun _ _ => becomes_of_coerce))
      rintro rfl
      cases hvs
  | gt l =>
    refine sound_of_bound h fun v hv => ?_
    exact { boundedBy_none t operators with gt := boundFrom_some hop hv }
  | gte l =>
    refine sound_of_bound h fun v hv => ?_
    exact { boundedBy_none t operators with gte := boundFrom_some hop hv }
  | lt l =>
    refine sound_of_bound h fun v hv => ?_
    exact { boundedBy_none t operators with lt := boundFrom_some hop hv }
  | lte l =>
    refine sound_of_bound h fun v hv => ?_
    exact { boundedBy_none t operators with lte := boundFrom_some hop hv }

/-- The operators on a field become the conjunction of leaves for them. -/
theorem Target.exists_leaves_of_predicate {t : Target} {field : String} {operators : List Operator}
    {p : Predicate} (h : t.predicate field operators = .ok p) :
    ∃ leaves, (∀ q ∈ leaves, t.Leaf operators q) ∧ Predicate.conjunction leaves = p := by
  simp only [predicate, bind_eq_ok_iff, pure_eq_ok_iff] at h
  obtain ⟨ds, hds, rfl⟩ := h
  have hsound : ∀ d ∈ ds, d.Sound t operators := by
    intro d hd
    obtain ⟨op, hop, hdemands⟩ := exists_mem_of_forall₂ (mapM_eq_ok_iff.mp hds).flip hd
    exact sound_of_demands hop hdemands
  have hall := Demands.sound_foldl_and (Demands.sound_none t operators) hsound
  exact ⟨_, hall.leaf_of_mem_allClauses, rfl⟩

/-! ### Trees -/

namespace Predicate

/-- The predicates are leaves for the operators on the field of a name, which stands for a property
or for a path. For a bridge there are none. -/
inductive LeavesFor (s : Scope) (name : String) (operators : List Operator)
    (leaves : List Predicate) : Prop
  | property {root : Entity} {x : OwnedProperty} {paths : PathPair} (root_eq : s.root = .ok root)
      (resolved : s.catalog.resolve root name = .ok (.property x))
      (paths_eq : Catalog.pathsFrom root x = .ok paths)
      (each : ∀ p ∈ leaves, Target.Leaf ⟨paths, some x.property.type⟩ operators p)
      (bridge : x.property.type = .entity → leaves = [])
  | path {root : Entity} {path : String} (root_eq : s.root = .ok root)
      (resolved : s.catalog.resolve root name = .ok (.path path))
      (each : ∀ p ∈ leaves, Target.Leaf ⟨.ofPath path, none⟩ operators p)

/-- The leaves among the nodes are those for the given fields, one field after the other, and every
group that has a choice asks for at least one. -/
structure WellTyped (s : Scope) (fields : List (String × List Operator)) (nodes : List Predicate) :
    Prop where
  leaves : ∃ blocks, nodes.filter isLeaf = blocks.flatten ∧
    List.Forall₂ (fun field leaves => LeavesFor s field.1 field.2 leaves) fields blocks
  choice : ∀ must should mustNot minimum, group must should mustNot minimum ∈ nodes →
    should ≠ [] → minimum = 1

variable {s : Scope} {root : Entity} {fields fields' : List (String × List Operator)}
  {nodes nodes' : List Predicate}

theorem wellTyped_nil (s : Scope) : WellTyped s [] [] :=
  ⟨⟨[], rfl, .nil⟩, nofun⟩

theorem WellTyped.append (h : WellTyped s fields nodes) (h' : WellTyped s fields' nodes') :
    WellTyped s (fields ++ fields') (nodes ++ nodes') := by
  obtain ⟨⟨blocks, hblocks, hleaves⟩, hchoice⟩ := h
  obtain ⟨⟨blocks', hblocks', hleaves'⟩, hchoice'⟩ := h'
  refine ⟨⟨blocks ++ blocks', ?_, List.rel_append hleaves hleaves'⟩,
    fun must should mustNot minimum h => ?_⟩
  · rw [List.filter_append, hblocks, hblocks', List.flatten_append]
  · rcases List.mem_append.mp h with h | h
    · exact hchoice must should mustNot minimum h
    · exact hchoice' must should mustNot minimum h

/-- A node that tests nothing stands before its clauses. -/
theorem WellTyped.cons {p : Predicate} (h : WellTyped s fields nodes) (hleaf : p.isLeaf = false)
    (hminimum : ∀ must should mustNot minimum, p = group must should mustNot minimum →
      should ≠ [] → minimum = 1) : WellTyped s fields (p :: nodes) := by
  obtain ⟨⟨blocks, hblocks, hleaves⟩, hchoice⟩ := h
  refine ⟨⟨blocks, ?_, hleaves⟩, fun must should mustNot minimum hmem => ?_⟩
  · rw [List.filter_cons_of_neg (by rw [hleaf]; exact Bool.false_ne_true), hblocks]
  · rcases List.mem_cons.mp hmem with hp | hmem
    · exact hminimum must should mustNot minimum hp.symm
    · exact hchoice must should mustNot minimum hmem

theorem WellTyped.matchAll (h : WellTyped s fields nodes) :
    WellTyped s fields (matchAll :: nodes) :=
  h.cons rfl nofun

theorem WellTyped.group {must should mustNot : List Predicate} {minimum : Nat}
    (h : WellTyped s fields (nodesOf must ++ nodesOf should ++ nodesOf mustNot))
    (hminimum : should ≠ [] → minimum = 1) :
    WellTyped s fields (Predicate.group must should mustNot minimum).nodes := by
  refine h.cons rfl ?_
  rintro _ _ _ _ ⟨⟩
  exact hminimum

theorem WellTyped.all {clauses : List Predicate} (h : WellTyped s fields (nodesOf clauses)) :
    WellTyped s fields (Predicate.all clauses).nodes := by
  refine .group ?_ (absurd rfl)
  simpa [nodesOf] using h

theorem WellTyped.any {clauses : List Predicate} (h : WellTyped s fields (nodesOf clauses)) :
    WellTyped s fields (Predicate.any clauses).nodes := by
  refine .group ?_ fun _ => rfl
  simpa [nodesOf] using h

theorem WellTyped.no {clause : Predicate} (h : WellTyped s fields clause.nodes) :
    WellTyped s fields (Predicate.no clause).nodes := by
  refine .group ?_ (absurd rfl)
  simpa [nodesOf] using h

theorem wellTyped_conjunction {name : String} {operators : List Operator} {leaves : List Predicate}
    (hleaf : ∀ p ∈ leaves, p.isLeaf = true) (h : LeavesFor s name operators leaves) :
    WellTyped s [(name, operators)] (conjunction leaves).nodes := by
  have hleaves : WellTyped s [(name, operators)] leaves := by
    refine ⟨⟨[leaves], ?_, .cons h .nil⟩, fun must should mustNot minimum hmem => ?_⟩
    · rw [List.flatten_singleton, List.filter_eq_self.mpr hleaf]
    · exact absurd (hleaf _ hmem) Bool.false_ne_true
  unfold conjunction
  split
  · exact hleaves.matchAll
  · rwa [nodes_of_isLeaf (hleaf _ (List.mem_singleton_self _))]
  · refine .all ?_
    rwa [nodesOf_of_isLeaf hleaf]

theorem wellTyped_ofField (hroot : s.root = .ok root) {name : String} {operators : List Operator}
    {p : Predicate} (h : ofField s root name operators = .ok p) :
    WellTyped s [(name, operators)] p.nodes := by
  simp only [ofField, Catalog.target, bind_eq_ok_iff] at h
  obtain ⟨t, ⟨resolved, hresolved, ht⟩, hp⟩ := h
  obtain ⟨leaves, hleaves, rfl⟩ := Target.exists_leaves_of_predicate hp
  refine wellTyped_conjunction (fun q hq => (hleaves q hq).isLeaf) ?_
  cases resolved with
  | property x =>
    simp only [bind_eq_ok_iff, pure_eq_ok_iff] at ht
    obtain ⟨paths, hpaths, rfl⟩ := ht
    refine .property hroot hresolved hpaths hleaves fun htype => ?_
    refine List.eq_nil_iff_forall_not_mem.mpr fun q hq => ?_
    exact (hleaves q hq).type_ne_entity (congrArg some htype)
  | path path =>
    cases ht
    exact .path hroot hresolved hleaves

mutual

/-- **Compiling a node gives well typed nodes.** -/
theorem wellTyped_ofNode (hroot : s.root = .ok root) {depth : Nat} :
    ∀ {c : Condition} {p : Predicate}, ofNode s root depth c = .ok p →
      WellTyped s c.fields p.nodes
  | .all parts, p, h => by
    obtain ⟨-, clauses, hclauses, rfl⟩ := ofNode_all_eq_ok_iff.mp h
    have hparts := wellTyped_ofNodes hroot hclauses
    cases clauses with
    | nil => exact hparts.matchAll
    | cons q qs => exact hparts.all
  | .any parts, p, h => by
    obtain ⟨-, clauses, hclauses, rfl⟩ := ofNode_any_eq_ok_iff.mp h
    have hparts := wellTyped_ofNodes hroot hclauses
    cases clauses with
    | nil => exact hparts.matchAll
    | cons q qs => exact hparts.any
  | .not part, p, h => by
    obtain ⟨-, clause, hclause, rfl⟩ := ofNode_not_eq_ok_iff.mp h
    exact (wellTyped_ofNode hroot hclause).no
  | .field name operators, p, h => wellTyped_ofField hroot (ofNode_field_eq_ok_iff.mp h).2

theorem wellTyped_ofNodes (hroot : s.root = .ok root) {depth : Nat} :
    ∀ {cs : List Condition} {ps : List Predicate}, ofNodes s root depth cs = .ok ps →
      WellTyped s (Condition.fieldsOf cs) (nodesOf ps)
  | [], ps, h => by
    cases h
    exact wellTyped_nil s
  | c :: cs, ps, h => by
    simp only [ofNodes, bind_eq_ok_iff, pure_eq_ok_iff] at h
    obtain ⟨q, hq, qs, hqs, rfl⟩ := h
    exact (wellTyped_ofNode hroot hq).append (wellTyped_ofNodes hroot hqs)

end

/-- **Compiled predicates are well typed.** In every scope, whatever a condition or a list of
conditions becomes consists of leaves for the fields in it, field by field and in their order, and
of groups; and a group with a choice asks for at least one. -/
theorem wellTyped_of_compiled (s : Scope) :
    (∀ (c : Condition) (p : Predicate), ofCondition s c = .ok p → WellTyped s c.fields p.nodes) ∧
      ∀ (filter : List Condition) (p : Predicate), ofFilter s filter = .ok p →
        WellTyped s (Condition.fieldsOf filter) p.nodes := by
  refine ⟨fun c p h => ?_, fun filter p h => ?_⟩
  · obtain ⟨root, hroot, hnode⟩ := ofCondition_eq_ok_iff.mp h
    exact wellTyped_ofNode hroot hnode
  · rcases ofFilter_eq_ok_iff.mp h with ⟨rfl, rfl⟩ | ⟨-, root, hroot, clauses, hclauses, rfl⟩
    · exact (wellTyped_nil s).matchAll
    · exact (wellTyped_ofNodes hroot hclauses).all

/-- Projects with a budget from ten to below twenty, or with a task that is not Ann's. The bounds
become whole numbers in one leaf, and what a task's owner is compared with becomes a text. -/
theorem wellTyped_budget :
    let s : Scope := ⟨projectCatalog [.field 2 "budget" .int, .bridge 3 "tasks" "Task"],
      "Project", 3⟩
    let filter : List Condition := [.any [.field "budget" [.gte (.string " 10"), .lt (.int 20)],
      .not (.field "owner" [.startsWith "Ann", .eq (.bool true)]), .field "tags.name" []]]
    let p := all [any [.range "budget" ⟨some (.int 10), none, none, some (.int 20)⟩,
      no (all [.startsWith "tasks.owner" "ann", .term "tasks.owner" (.string "true")]), matchAll]]
    ofFilter s filter = .ok p ∧ WellTyped s (Condition.fieldsOf filter) p.nodes := by
  intro s filter p
  have h : ofFilter s filter = .ok p := by
    subst s filter p
    rfl
  exact ⟨h, (wellTyped_of_compiled s).2 filter p h⟩

end Predicate

end GuardedSearch
