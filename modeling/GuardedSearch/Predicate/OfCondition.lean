import GuardedSearch.Condition
import GuardedSearch.Predicate
import GuardedSearch.Scope

/-!
# The predicate of a filter

A filter becomes a predicate by resolving its fields and coercing its values to their types. The
first node that cannot be compiled, in the order in which the nodes are written, decides the error.

## Main definitions

* `Target.demands`: what one operator asks for.
* `Target.predicate`: the operators on one field, together.
* `Predicate.ofCondition`, `Predicate.ofFilter`: a condition, and a list of them.
-/

namespace GuardedSearch

/-! ### Conditions on a field -/

/-- What operators ask for: predicates, and bounds that one value has to keep to together. -/
structure Demands where
  clauses : List Predicate
  bounds : Bounds

namespace Demands

/-- No demands. -/
def none : Demands := ⟨[], .none⟩

/-- The demand of one predicate. -/
def clause (p : Predicate) : Demands := ⟨[p], .none⟩

/-- The demand of bounds. -/
def within (b : Bounds) : Demands := ⟨[], b⟩

/-- Both demands. Of two bounds of one kind the later one counts. -/
def and (d e : Demands) : Demands where
  clauses := d.clauses ++ e.clauses
  bounds := ⟨e.bounds.gte.or d.bounds.gte, e.bounds.gt.or d.bounds.gt,
    e.bounds.lte.or d.bounds.lte, e.bounds.lt.or d.bounds.lt⟩

/-- The predicates for the demands on values with the given paths. -/
def allClauses (d : Demands) (paths : PathPair) : List Predicate :=
  if d.bounds.isEmpty then d.clauses else d.clauses ++ [.range paths.exact d.bounds]

end Demands

/-- The conjunction of a list without needless groups. -/
def Predicate.conjunction : List Predicate → Predicate
  | [] => matchAll
  | [p] => p
  | ps => all ps

namespace Target

/-- A value of a filter as a value of the field's type. -/
def coerce (t : Target) (field : String) (v : Literal) : Except SearchError Literal :=
  match t.type with
  | some type => v.coerce type field
  | none => .ok v

/-- Refuses an operator with the given operand unless the field's type admits it. -/
def require (t : Target) (admits : DataType → Bool) (field : String) (v : Literal) :
    Except SearchError Unit :=
  match t.type with
  | some type => if admits type then .ok () else .error (.typeMismatch field type v.shown)
  | none => .ok ()

/-- A value to compare with a bound. -/
def boundValue (t : Target) (field : String) (v : Literal) : Except SearchError Literal := do
  t.require DataType.hasRange field v
  t.coerce field v

/-- What one operator asks for. An empty list of values asks for nothing. -/
def demands (t : Target) (field : String) : Operator → Except SearchError Demands
  | .eq v => return .clause (.term t.paths.exact (← t.coerce field v))
  | .contains part => do
    t.require DataType.hasText field (.string part)
    return .clause (.containsText t.paths.text part)
  | .startsWith start => do
    t.require DataType.hasText field (.string start)
    return .clause (.beginsWithText t.paths.exact start)
  | .oneOf [] => return .none
  | .oneOf vs => return .clause (.terms t.paths.exact (← vs.mapM (t.coerce field)))
  | .gt v => return .within { Bounds.none with gt := some (← t.boundValue field v) }
  | .gte v => return .within { Bounds.none with gte := some (← t.boundValue field v) }
  | .lt v => return .within { Bounds.none with lt := some (← t.boundValue field v) }
  | .lte v => return .within { Bounds.none with lte := some (← t.boundValue field v) }

/-- The predicate for all operators on a field. -/
def predicate (t : Target) (field : String) (operators : List Operator) :
    Except SearchError Predicate := do
  let demands ← operators.mapM (t.demands field)
  return .conjunction ((demands.foldl Demands.and .none).allClauses t.paths)

end Target

namespace Predicate

/-! ### Conditions -/

/-- The predicate of a condition on a field. -/
def ofField (s : Scope) (root : Entity) (name : String) (operators : List Operator) :
    Except SearchError Predicate := do
  (← s.catalog.target root name).predicate name operators

/-- Refuses a node that lies too deep. -/
def checkDepth (s : Scope) (depth : Nat) : Except SearchError Unit :=
  if depth > s.maxDepth then .error (.invalidRequest (.tooDeep s.maxDepth)) else .ok ()

mutual

/-- The predicate of a node at the given depth. -/
def ofNode (s : Scope) (root : Entity) (depth : Nat) : Condition → Except SearchError Predicate
  | .all parts => do
    checkDepth s depth
    let clauses ← ofNodes s root (depth + 1) parts
    return if clauses.isEmpty then matchAll else all clauses
  | .any parts => do
    checkDepth s depth
    let clauses ← ofNodes s root (depth + 1) parts
    return if clauses.isEmpty then matchAll else any clauses
  | .not part => do
    checkDepth s depth
    return no (← ofNode s root (depth + 1) part)
  | .field name operators => do
    checkDepth s depth
    ofField s root name operators

/-- The predicates of nodes at the given depth. -/
def ofNodes (s : Scope) (root : Entity) (depth : Nat) :
    List Condition → Except SearchError (List Predicate)
  | [] => .ok []
  | c :: rest => do
    let p ← ofNode s root depth c
    let ps ← ofNodes s root depth rest
    return p :: ps

end

/-- The predicate of a condition. -/
def ofCondition (s : Scope) (c : Condition) : Except SearchError Predicate := do
  ofNode s (← s.root) 1 c

/-- The predicate of a filter. The empty filter asks for nothing, not even for an entity. -/
def ofFilter (s : Scope) (filter : List Condition) : Except SearchError Predicate :=
  if filter.isEmpty then .ok matchAll
  else do
    let clauses ← ofNodes s (← s.root) 1 filter
    return all clauses

end Predicate

end GuardedSearch
