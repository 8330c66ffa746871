import GuardedSearch.Proofs.Condition.Meaning

/-!
# The operators on one field

A condition on a field may have any number of operators, and each of them has a meaning of its own:
some value at its path passes it. The operators that bound values are no list of clauses. They share
one record of bounds, which one value has to keep to, and the record has one place for each kind of
bound. So the last operator of a kind is in force, and those of its kind before it have no effect,
although they have been checked like all others.

A client that writes JSON cannot name an operator twice. One that builds its filter can, and then
fewer operators are in force than it has asked for.

## Main definitions

* `Bounds.Kind` — the four kinds of bounds, to say a thing once for all of them
* `Target.passes`, `Target.Satisfies` — whether a value, and whether a document, has what an
  operator asks for
* `Operator.InForce` — no later operator has the same name
* `Demands.Met` — demands that come to the same as the operators in force

## Main results

* `Demands.Met.and`, `Demands.Met.foldl` — one more operator, and any number of them
* `operators_in_force` — a condition on a field asks for all of its operators that are in force
-/

namespace GuardedSearch

/-! ### Kinds of bounds -/

namespace Bounds

/-- The kinds of bounds. -/
inductive Kind where
  | gte
  | gt
  | lte
  | lt
  deriving DecidableEq

/-- The bound of a kind. -/
def get (b : Bounds) : Kind → Option Literal
  | .gte => b.gte
  | .gt => b.gt
  | .lte => b.lte
  | .lt => b.lt

namespace Kind

/-- How a value may lie to a bound. -/
def admits : Kind → Ordering → Bool
  | gte => Ordering.isGE
  | gt => Ordering.isGT
  | lte => Ordering.isLE
  | lt => Ordering.isLT

/-- The operator for a bound. -/
def operator : Kind → Literal → Operator
  | gte => .gte
  | gt => .gt
  | lte => .lte
  | lt => .lt

/-- A bound of the kind and no others. -/
def only (k : Kind) (v : Literal) : Bounds :=
  match k with
  | gte => { Bounds.none with gte := some v }
  | gt => { Bounds.none with gt := some v }
  | lte => { Bounds.none with lte := some v }
  | lt => { Bounds.none with lt := some v }

end Kind

@[simp] theorem get_none (k : Kind) : Bounds.none.get k = .none := by
  cases k <;> rfl

theorem get_only (k other : Kind) (v : Literal) :
    (k.only v).get other = if k = other then some v else .none := by
  cases k <;> cases other <;> rfl

theorem get_and (d e : Demands) (k : Kind) :
    (d.and e).bounds.get k = (e.bounds.get k).or (d.bounds.get k) := by
  cases k <;> rfl

theorem isEmpty_iff {b : Bounds} : b.isEmpty = true ↔ ∀ k, b.get k = .none := by
  simp only [isEmpty, Bool.and_eq_true, Option.isNone_iff_eq_none]
  constructor
  · rintro ⟨⟨⟨hgte, hgt⟩, hlte⟩, hlt⟩ k
    cases k <;> assumption
  · intro h
    exact ⟨⟨⟨h .gte, h .gt⟩, h .lte⟩, h .lt⟩

theorem containsBy_iff {b : Bounds} {compare : Literal → Option Ordering} :
    b.containsBy compare = true ↔
      ∀ k w, b.get k = some w → (compare w).any k.admits = true := by
  have hkeeps : ∀ accept bound, keeps compare accept bound = true ↔
      ∀ w, bound = some w → (compare w).any accept = true := by
    intro accept bound
    cases bound <;> simp [keeps]
  simp only [containsBy, Bool.and_eq_true, hkeeps]
  constructor
  · rintro ⟨⟨⟨hgte, hgt⟩, hlte⟩, hlt⟩ k
    cases k <;> assumption
  · intro h
    exact ⟨⟨⟨h .gte, h .gt⟩, h .lte⟩, h .lt⟩

end Bounds

/-! ### Operators in force -/

namespace Operator

/-- The operator bounds values. -/
def isBound : Operator → Bool
  | gt _ | gte _ | lt _ | lte _ => true
  | eq _ | contains _ | startsWith _ | oneOf _ => false

/-- The operator is one of the list, and no operator after it has its name. -/
def InForce (operators : List Operator) (op : Operator) : Prop :=
  ∃ before after, operators = before ++ op :: after ∧ ∀ other ∈ after, other.name ≠ op.name

/-- The bound of a kind that an operator asks for. -/
def bound? : Bounds.Kind → Operator → Option Literal
  | .gte, gte v | .gt, gt v | .lte, lte v | .lt, lt v => some v
  | _, _ => none

/-- The bound of a kind that operators ask for last. -/
def lastBound? (k : Bounds.Kind) (operators : List Operator) : Option Literal :=
  operators.reverse.findSome? (bound? k)

theorem isBound_operator (k : Bounds.Kind) (v : Literal) : (k.operator v).isBound = true := by
  cases k <;> rfl

theorem exists_of_isBound {op : Operator} (h : op.isBound = true) :
    ∃ (k : Bounds.Kind) (v : Literal), k.operator v = op := by
  cases op with
  | eq | contains | startsWith | oneOf => cases h
  | gt v => exact ⟨.gt, v, rfl⟩
  | gte v => exact ⟨.gte, v, rfl⟩
  | lt v => exact ⟨.lt, v, rfl⟩
  | lte v => exact ⟨.lte, v, rfl⟩

theorem bound?_operator (k other : Bounds.Kind) (v : Literal) :
    bound? k (other.operator v) = if other = k then some v else none := by
  cases k <;> cases other <;> rfl

theorem bound?_eq_some_iff {k : Bounds.Kind} {op : Operator} {v : Literal} :
    bound? k op = some v ↔ k.operator v = op := by
  cases k <;> cases op <;> simp [bound?, Bounds.Kind.operator, eq_comm]

theorem bound?_eq_none_iff {k : Bounds.Kind} {op : Operator} {v : Literal} :
    bound? k op = none ↔ op.name ≠ (k.operator v).name := by
  cases k <;> cases op <;> simp [bound?, Bounds.Kind.operator, name]

theorem lastBound?_append (k : Bounds.Kind) (operators : List Operator) (op : Operator) :
    lastBound? k (operators ++ [op]) = (bound? k op).or (lastBound? k operators) := by
  cases h : bound? k op <;> simp [lastBound?, h]

/-- The bound that counts is that of the operator in force. -/
theorem lastBound?_eq_some_iff {k : Bounds.Kind} {operators : List Operator} {v : Literal} :
    lastBound? k operators = some v ↔ InForce operators (k.operator v) := by
  rw [lastBound?, List.findSome?_eq_some_iff]
  constructor
  · rintro ⟨after, op, before, hsplit, hop, hafter⟩
    obtain rfl := bound?_eq_some_iff.mp hop
    refine ⟨before.reverse, after.reverse, ?_, fun other hother => ?_⟩
    · simpa using congrArg List.reverse hsplit
    · exact bound?_eq_none_iff.mp (hafter other (List.mem_reverse.mp hother))
  · rintro ⟨before, after, rfl, hafter⟩
    refine ⟨after.reverse, k.operator v, before.reverse, by simp,
      bound?_eq_some_iff.mpr rfl, fun other hother => ?_⟩
    exact bound?_eq_none_iff.mpr (hafter other (List.mem_reverse.mp hother))

theorem InForce.mem {operators : List Operator} {op : Operator} (h : InForce operators op) :
    op ∈ operators := by
  obtain ⟨before, after, rfl, -⟩ := h
  exact List.mem_append_right _ List.mem_cons_self

theorem inForce_singleton_iff {op other : Operator} : InForce [op] other ↔ other = op := by
  constructor
  · intro h
    exact List.mem_singleton.mp h.mem
  · rintro rfl
    exact ⟨[], [], rfl, List.forall_mem_nil _⟩

/-- If no operator for bounds is given twice, all of them are in force. -/
theorem inForce_of_nodup {operators : List Operator}
    (h : ((operators.filter isBound).map name).Nodup) {op : Operator} (hop : op ∈ operators)
    (hbound : op.isBound = true) : InForce operators op := by
  obtain ⟨before, after, rfl⟩ := List.mem_iff_append.mp hop
  refine ⟨before, after, rfl, fun other hother hname => ?_⟩
  have hother_bound : other.isBound = true := by
    obtain ⟨k, v, rfl⟩ := exists_of_isBound hbound
    obtain ⟨w, hw⟩ := Option.ne_none_iff_exists'.mp fun hnone =>
      bound?_eq_none_iff.mp hnone hname
    exact bound?_eq_some_iff.mp hw ▸ isBound_operator k w
  rw [List.filter_append, List.filter_cons_of_pos hbound, List.map_append, List.map_cons] at h
  refine (List.nodup_cons.mp (List.nodup_append.mp h).2.1).1 ?_
  exact hname ▸ List.mem_map_of_mem (List.mem_filter.mpr ⟨hother, hother_bound⟩)

theorem exists_inForce {operators : List Operator} {op : Operator} (h : op ∈ operators)
    (hbound : op.isBound = true) : ∃ last, last.isBound = true ∧ InForce operators last := by
  obtain ⟨k, v, rfl⟩ := exists_of_isBound hbound
  have hsome : (lastBound? k operators).isSome = true := by
    rw [lastBound?, List.findSome?_isSome_iff]
    exact ⟨_, List.mem_reverse.mpr h, by rw [bound?_eq_some_iff.mpr rfl]; rfl⟩
  obtain ⟨w, hw⟩ := Option.isSome_iff_exists.mp hsome
  exact ⟨_, isBound_operator k w, lastBound?_eq_some_iff.mp hw⟩

end Operator

/-! ### What operators mean -/

namespace Target

variable (t : Target) (field : String)

/-- Whether what a literal of a filter becomes passes a test. -/
def operandPasses (l : Literal) (test : Literal → Bool) : Bool :=
  match t.coerce field l with
  | .ok w => test w
  | .error _ => false

/-- Whether a stored value has what an operator asks for. -/
def passes (v : Json) : Operator → Bool
  | .eq l => t.operandPasses field l v.equals
  | .contains part => Predicate.textPasses (Text.contains · (Text.lower part)) v
  | .startsWith start => Predicate.textPasses (Text.beginsWith · (Text.lower start)) v
  | .oneOf ls => ls.any fun l => t.operandPasses field l v.equals
  | .gt l => t.operandPasses field l fun w => (v.compareTo? w).any Ordering.isGT
  | .gte l => t.operandPasses field l fun w => (v.compareTo? w).any Ordering.isGE
  | .lt l => t.operandPasses field l fun w => (v.compareTo? w).any Ordering.isLT
  | .lte l => t.operandPasses field l fun w => (v.compareTo? w).any Ordering.isLE

/-- The path that an operator looks at. -/
def pathOf : Operator → String
  | .contains _ => t.paths.text
  | .eq _ | .startsWith _ | .oneOf _ | .gt _ | .gte _ | .lt _ | .lte _ => t.paths.exact

/-- Whether a document holds a value that has what an operator asks for. -/
def Satisfies (d : Document) (op : Operator) : Prop :=
  ∃ v ∈ Json.fieldValues (t.pathOf op) d.source, t.passes field v op = true

variable {t field}

theorem operandPasses_of_coerce {l w : Literal} (h : t.coerce field l = .ok w)
    (test : Literal → Bool) : t.operandPasses field l test = test w := by
  rw [operandPasses, h]

theorem passes_operator (v : Json) (k : Bounds.Kind) (l : Literal) :
    t.passes field v (k.operator l) =
      t.operandPasses field l fun w => (v.compareTo? w).any k.admits := by
  cases k <;> rfl

theorem any_operandPasses {ls ws : List Literal}
    (h : List.Forall₂ (fun l w => t.coerce field l = .ok w) ls ws) (test : Literal → Bool) :
    (ls.any fun l => t.operandPasses field l test) = ws.any test := by
  induction h with
  | nil => rfl
  | cons hl _ ih => rw [List.any_cons, List.any_cons, ih, operandPasses_of_coerce hl]

/-! ### What one operator demands -/

theorem demands_operator_eq_ok_iff {k : Bounds.Kind} {l : Literal} {e : Demands} :
    t.demands field (k.operator l) = .ok e ↔
      ∃ w, t.boundValue field l = .ok w ∧ Demands.within (k.only w) = e := by
  cases k <;> simp only [Bounds.Kind.operator, demands, bind_eq_ok_iff, pure_eq_ok_iff] <;> rfl

theorem coerce_of_boundValue {l w : Literal} (h : t.boundValue field l = .ok w) :
    t.coerce field l = .ok w :=
  (bind_unit_eq_ok_iff.mp h).2

/-- A leaf that tests the values at a path accepts what has a value that passes. -/
theorem accepts_clause_iff {p : Predicate} {path : String} {test : Json → Bool}
    (h : ∀ docs, p.rows docs = .ofTest (Predicate.anyValue path test) docs) (d : Document) :
    (∀ q ∈ (Demands.clause p).clauses, q.accepts d = true) ↔
      ∃ v ∈ Json.fieldValues path d.source, test v = true := by
  rw [Demands.clause, List.forall_mem_singleton, Predicate.accepts_of_leaf h, Predicate.anyValue,
    List.any_eq_true]

/-- An operator that bounds nothing becomes its own meaning. -/
theorem clauses_of_demands {op : Operator} (hop : op.isBound = false) {e : Demands}
    (h : t.demands field op = .ok e) :
    e.bounds = .none ∧ ∀ d, (∀ p ∈ e.clauses, p.accepts d = true) ↔
      (op ≠ .oneOf [] → t.Satisfies field d op) := by
  cases op with
  | gt | gte | lt | lte => cases hop
  | eq l =>
    simp only [demands, bind_eq_ok_iff, pure_eq_ok_iff] at h
    obtain ⟨w, hw, rfl⟩ := h
    refine ⟨rfl, fun d => ?_⟩
    rw [accepts_clause_iff (fun _ => rfl)]
    simp only [Satisfies, passes, operandPasses_of_coerce hw, pathOf]
    simp
  | contains part =>
    obtain ⟨-, he⟩ := bind_unit_eq_ok_iff.mp h
    cases he
    refine ⟨rfl, fun d => ?_⟩
    rw [Predicate.containsText, accepts_clause_iff (fun _ => rfl)]
    simp [Satisfies, passes, pathOf]
  | startsWith start =>
    obtain ⟨-, he⟩ := bind_unit_eq_ok_iff.mp h
    cases he
    refine ⟨rfl, fun d => ?_⟩
    rw [Predicate.beginsWithText, accepts_clause_iff (fun _ => rfl)]
    simp [Satisfies, passes, pathOf]
  | oneOf ls =>
    cases ls with
    | nil =>
      cases h
      exact ⟨rfl, fun d => by simp [Demands.none]⟩
    | cons l ls =>
      simp only [demands, bind_eq_ok_iff, pure_eq_ok_iff, mapM_eq_ok_iff] at h
      obtain ⟨ws, hws, rfl⟩ := h
      refine ⟨rfl, fun d => ?_⟩
      rw [accepts_clause_iff (fun _ => rfl)]
      simp only [Satisfies, passes, any_operandPasses hws, pathOf]
      simp

end Target

/-! ### What all operators demand -/

/-- The demands come to the same as the operators in force. -/
structure Demands.Met (t : Target) (field : String) (operators : List Operator) (d : Demands) :
    Prop where
  clauses : ∀ doc, (∀ p ∈ d.clauses, p.accepts doc = true) ↔
    ∀ op ∈ operators, op.isBound = false → op ≠ .oneOf [] → t.Satisfies field doc op
  bounds : ∀ k, Option.Rel (fun l w => t.coerce field l = .ok w)
    (Operator.lastBound? k operators) (d.bounds.get k)

namespace Demands

variable {t : Target} {field : String} {operators : List Operator} {d : Demands}

theorem met_none (t : Target) (field : String) : Met t field [] none where
  clauses := by simp [none]
  bounds := fun k => by
    rw [none, Bounds.get_none]
    exact .none

/-- **One more operator.** -/
theorem Met.and (h : Met t field operators d) {op : Operator} {e : Demands}
    (he : t.demands field op = .ok e) : Met t field (operators ++ [op]) (d.and e) := by
  have hclauses : ∀ doc, (∀ p ∈ (d.and e).clauses, p.accepts doc = true) ↔
      (∀ p ∈ d.clauses, p.accepts doc = true) ∧ ∀ p ∈ e.clauses, p.accepts doc = true :=
    fun doc => List.forall_mem_append
  cases hop : op.isBound with
  | false =>
    obtain ⟨hbounds, hmeans⟩ := Target.clauses_of_demands hop he
    refine ⟨fun doc => ?_, fun k => ?_⟩
    · rw [hclauses, h.clauses, hmeans]
      simp [or_imp, forall_and, hop]
    · have hnone : Operator.bound? k op = .none := by
        cases hk : Operator.bound? k op with
        | none => rfl
        | some v =>
          cases Operator.bound?_eq_some_iff.mp hk
          rw [Operator.isBound_operator] at hop
          cases hop
      rw [Operator.lastBound?_append, Bounds.get_and, hnone, hbounds, Bounds.get_none]
      exact h.bounds k
  | true =>
    obtain ⟨k, l, rfl⟩ := Operator.exists_of_isBound hop
    obtain ⟨w, hw, rfl⟩ := Target.demands_operator_eq_ok_iff.mp he
    refine ⟨fun doc => ?_, fun other => ?_⟩
    · rw [hclauses, h.clauses]
      simp [or_imp, forall_and, hop, within]
    · rw [Operator.lastBound?_append, Bounds.get_and, Operator.bound?_operator, within,
        Bounds.get_only]
      -- A bound of another kind stays; a bound of this kind gives way.
      split
      · exact .some (Target.coerce_of_boundValue hw)
      · exact h.bounds other

/-- **Any number of operators.** -/
theorem Met.foldl (h : Met t field operators d) {more : List Operator} {ds : List Demands}
    (hds : List.Forall₂ (fun op e => t.demands field op = .ok e) more ds) :
    Met t field (operators ++ more) (ds.foldl Demands.and d) := by
  induction hds generalizing operators d with
  | nil => simpa using h
  | cons he _ ih => simpa using ih (h.and he)

/-- Bounds are kept to by the values that pass the operators in force. -/
theorem Met.withinBounds_iff (h : Met t field operators d) (v : Json) :
    Predicate.withinBounds d.bounds v = true ↔
      ∀ op, Operator.InForce operators op → op.isBound = true → t.passes field v op = true := by
  rw [Predicate.withinBounds, Bounds.containsBy_iff]
  constructor
  · intro hkeeps op hop hbound
    obtain ⟨k, l, rfl⟩ := Operator.exists_of_isBound hbound
    have hlast := h.bounds k
    rw [Operator.lastBound?_eq_some_iff.mpr hop] at hlast
    obtain ⟨w, hw, hcoerce⟩ : ∃ w, d.bounds.get k = some w ∧ t.coerce field l = .ok w := by
      generalize d.bounds.get k = bound at hlast
      cases hlast with
      | some hcoerce => exact ⟨_, rfl, hcoerce⟩
    rw [Target.passes_operator, Target.operandPasses_of_coerce hcoerce]
    exact hkeeps k w hw
  · intro hpasses k w hw
    have hlast := h.bounds k
    rw [hw] at hlast
    obtain ⟨l, hl, hcoerce⟩ : ∃ l, Operator.lastBound? k operators = some l ∧
        t.coerce field l = .ok w := by
      generalize Operator.lastBound? k operators = last at hlast
      cases hlast with
      | some hcoerce => exact ⟨_, rfl, hcoerce⟩
    have hop := hpasses _ (Operator.lastBound?_eq_some_iff.mp hl) (Operator.isBound_operator k l)
    rwa [Target.passes_operator, Target.operandPasses_of_coerce hcoerce] at hop

theorem Met.isEmpty_iff (h : Met t field operators d) :
    d.bounds.isEmpty = true ↔ ¬∃ op ∈ operators, op.isBound = true := by
  rw [Bounds.isEmpty_iff]
  constructor
  · rintro hempty ⟨op, hop, hbound⟩
    obtain ⟨last, hlast, hforce⟩ := Operator.exists_inForce hop hbound
    obtain ⟨k, l, rfl⟩ := Operator.exists_of_isBound hlast
    have hrel := h.bounds k
    rw [hempty k, Operator.lastBound?_eq_some_iff.mpr hforce] at hrel
    cases hrel
  · intro hno k
    have hrel := h.bounds k
    cases hlast : Operator.lastBound? k operators with
    | none =>
      rw [hlast] at hrel
      generalize d.bounds.get k = bound at hrel
      cases hrel
      rfl
    | some l =>
      exact absurd ⟨_, (Operator.lastBound?_eq_some_iff.mp hlast).mem,
        Operator.isBound_operator k l⟩ hno

end Demands

theorem Predicate.accepts_conjunction (ps : List Predicate) (d : Document) :
    (conjunction ps).accepts d = true ↔ ∀ p ∈ ps, p.accepts d = true := by
  rcases ps with _ | ⟨p, _ | ⟨q, ps⟩⟩
  · simp [conjunction]
  · simp [conjunction]
  · rw [conjunction, accepts_all, List.all_eq_true]
    · exact nofun
    · exact nofun

namespace Target

variable {t : Target} {field : String} {operators : List Operator}

/-- What a condition on a field asks of a document: each of its operators that bounds nothing is
satisfied by itself, and if there are bounds, one value passes all bounds in force. -/
def SatisfiesAll (t : Target) (field : String) (operators : List Operator) (d : Document) : Prop :=
  (∀ op ∈ operators, op.isBound = false → op ≠ .oneOf [] → t.Satisfies field d op) ∧
    ((∃ op ∈ operators, op.isBound = true) →
      ∃ v ∈ Json.fieldValues t.paths.exact d.source,
        ∀ op, Operator.InForce operators op → op.isBound = true → t.passes field v op = true)

theorem predicate_eq_ok_iff {p : Predicate} :
    t.predicate field operators = .ok p ↔
      ∃ ds, List.Forall₂ (fun op e => t.demands field op = .ok e) operators ds ∧
        .conjunction ((ds.foldl Demands.and .none).allClauses t.paths) = p := by
  simp only [predicate, bind_eq_ok_iff, pure_eq_ok_iff, mapM_eq_ok_iff]

/-- **The operators on a field become what they ask for together.** -/
theorem accepts_of_predicate {p : Predicate} (h : t.predicate field operators = .ok p)
    (d : Document) : p.accepts d = true ↔ t.SatisfiesAll field operators d := by
  obtain ⟨ds, hds, rfl⟩ := predicate_eq_ok_iff.mp h
  have hmet : Demands.Met t field operators (ds.foldl Demands.and .none) :=
    (Demands.met_none t field).foldl hds
  have hrange : (Predicate.range t.paths.exact (ds.foldl Demands.and .none).bounds).accepts d =
      Predicate.anyValue t.paths.exact
        (Predicate.withinBounds (ds.foldl Demands.and .none).bounds) d :=
    Predicate.accepts_of_leaf (fun _ => rfl) d
  rw [Predicate.accepts_conjunction, Demands.allClauses, SatisfiesAll, ← hmet.clauses]
  split
  case isTrue hempty =>
    exact (and_iff_left fun hbound => absurd hbound (hmet.isEmpty_iff.mp hempty)).symm
  case isFalse hempty =>
    have hbound := not_not.mp (mt hmet.isEmpty_iff.mpr hempty)
    rw [List.forall_mem_append, List.forall_mem_singleton, hrange, Predicate.anyValue,
      List.any_eq_true, forall_prop_of_true hbound]
    simp only [hmet.withinBounds_iff]

/-- Each operator compiles by itself, if it does among others. -/
theorem exists_predicate_one {p : Predicate} (h : t.predicate field operators = .ok p)
    {op : Operator} (hop : op ∈ operators) : ∃ q, t.predicate field [op] = .ok q := by
  obtain ⟨ds, hds, -⟩ := predicate_eq_ok_iff.mp h
  obtain ⟨e, -, he⟩ := exists_mem_of_forall₂ hds hop
  exact ⟨_, predicate_eq_ok_iff.mpr ⟨[e], .cons he .nil, rfl⟩⟩

end Target

/-! ### Conditions -/

theorem Predicate.ofCondition_field_eq_ok_iff {s : Scope} {name : String}
    {operators : List Operator} {p : Predicate} :
    ofCondition s (.field name operators) = .ok p ↔
      1 ≤ s.maxDepth ∧ ∃ t, s.target name = .ok t ∧ t.predicate name operators = .ok p := by
  simp only [ofCondition_eq_ok_iff, ofNode_field_eq_ok_iff, ofField, Scope.target, bind_eq_ok_iff]
  tauto

/-- An operator that is in force, or that bounds nothing, does not get lost among others. -/
theorem Target.SatisfiesAll.one {t : Target} {field : String} {operators : List Operator}
    {d : Document} (h : t.SatisfiesAll field operators d) {op : Operator} (hop : op ∈ operators)
    (hforce : op.isBound = true → Operator.InForce operators op) :
    t.SatisfiesAll field [op] d := by
  constructor
  · intro other hother
    rw [List.mem_singleton.mp hother]
    exact h.1 op hop
  · rintro ⟨other, hother, hbound⟩
    rw [List.mem_singleton.mp hother] at hbound
    obtain ⟨v, hv, hpasses⟩ := h.2 ⟨op, hop, hbound⟩
    refine ⟨v, hv, fun other hother hbound => ?_⟩
    rw [Operator.inForce_singleton_iff.mp hother] at hbound ⊢
    exact hpasses op (hforce hbound) hbound

/-- **A condition on a field asks for all of its operators that are in force.** If it compiles, a
document matches exactly if it has, for each operator that bounds nothing, a value at the path of
the operator that passes it, and, if there are bounds, one value at the path for comparison that
passes all those in force. So the condition is no weaker than with one of these operators alone.
Bounds are all in force if no kind of them is given twice; of one kind, only the last is. -/
theorem operators_in_force {s : Scope} {name : String} {operators : List Operator} {p : Predicate}
    (h : Predicate.ofCondition s (.field name operators) = .ok p) :
    ∃ t, s.target name = .ok t ∧
      (∀ d, p.accepts d = true ↔
        (∀ op ∈ operators, op.isBound = false → op ≠ .oneOf [] → t.Satisfies name d op) ∧
          ((∃ op ∈ operators, op.isBound = true) →
            ∃ v ∈ Json.fieldValues t.paths.exact d.source, ∀ op, Operator.InForce operators op →
              op.isBound = true → t.passes name v op = true)) ∧
      (∀ op ∈ operators, (op.isBound = true → Operator.InForce operators op) →
        ∃ q, Predicate.ofCondition s (.one name op) = .ok q ∧
          ∀ d, p.accepts d = true → q.accepts d = true) ∧
      (((operators.filter Operator.isBound).map Operator.name).Nodup →
        ∀ op ∈ operators, op.isBound = true → Operator.InForce operators op) := by
  obtain ⟨hdepth, t, ht, hp⟩ := Predicate.ofCondition_field_eq_ok_iff.mp h
  refine ⟨t, ht, Target.accepts_of_predicate hp, fun op hop hforce => ?_,
    fun hnodup op hop hbound => Operator.inForce_of_nodup hnodup hop hbound⟩
  obtain ⟨q, hq⟩ := Target.exists_predicate_one hp hop
  refine ⟨q, Predicate.ofCondition_field_eq_ok_iff.mpr ⟨hdepth, t, ht, hq⟩, fun d hd => ?_⟩
  exact (Target.accepts_of_predicate hq d).mpr
    (((Target.accepts_of_predicate hp d).mp hd).one hop hforce)

/-! ### Budgets -/

/-- Projects with their budgets, seen from projects. -/
def budgetScope : Scope :=
  ⟨(projectCatalog [.field 2 "budget" .int]).withoutRules, "Project", 32⟩

/-- A lower bound that comes last is in force, whatever comes before it. -/
theorem operators_in_force_budget :
    ∃ p q, Predicate.ofCondition budgetScope
        (.field "budget" [.gte (.int 5), .lt (.int 20), .gte (.string "3")]) = .ok p ∧
      Predicate.ofCondition budgetScope (.one "budget" (.gte (.string "3"))) = .ok q ∧
      ∀ d, p.accepts d = true → q.accepts d = true := by
  have hp : Predicate.ofCondition budgetScope
      (.field "budget" [.gte (.int 5), .lt (.int 20), .gte (.string "3")]) =
        .ok (.range "budget" ⟨some (.int 3), none, none, some (.int 20)⟩) := rfl
  obtain ⟨t, -, -, hone, -⟩ := operators_in_force hp
  obtain ⟨q, hq, hweaker⟩ := hone (.gte (.string "3")) (by simp) fun _ =>
    ⟨[.gte (.int 5), .lt (.int 20)], [], rfl, List.forall_mem_nil _⟩
  exact ⟨_, q, hp, hq, hweaker⟩

/-- **A bound that is given again is lost.** A budget of four matches a condition that asks for five
at least, if it goes on to ask for three at least. -/
theorem matches_lost_bound :
    ∃ p q, Predicate.ofCondition budgetScope
        (.field "budget" [.gte (.int 5), .gte (.int 3)]) = .ok p ∧
      Predicate.ofCondition budgetScope (.one "budget" (.gte (.int 5))) = .ok q ∧
      p.accepts ⟨0, .object [("budget", .ofNat 4)]⟩ = true ∧
      q.accepts ⟨0, .object [("budget", .ofNat 4)]⟩ = false :=
  ⟨.range "budget" ⟨some (.int 3), none, none, none⟩,
    .range "budget" ⟨some (.int 5), none, none, none⟩, rfl, rfl, by decide +kernel,
    by decide +kernel⟩

end GuardedSearch
