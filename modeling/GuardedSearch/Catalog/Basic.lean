import GuardedSearch.Metadata
import GuardedSearch.SearchError

/-!
# Catalogs

A catalog is metadata that has been checked, and all that a request knows about entities and rules.
Entities are looked up by the lower-case form of their names; rules apply to an entity by ASCII case
only.

## Main definitions

* `Catalog`, `Catalog.entity?`: the checked entities and rules, and the entity of a name.
* `Catalog.build`: the checks, in order, each with the fault it reports.
-/

namespace GuardedSearch

/-- Checked metadata. The generation counts the publications of a store. -/
structure Catalog where
  entities : List Entity
  rules : List AccessRule
  generation : Nat
  deriving DecidableEq, Repr

namespace Catalog

/-- The catalog without entities and rules. -/
def empty : Catalog := ⟨[], [], 0⟩

/-- The same catalog as another generation. -/
def withGeneration (c : Catalog) (generation : Nat) : Catalog :=
  { c with generation }

/-- The metadata that the catalog was built from. -/
def metadata (c : Catalog) : Metadata :=
  ⟨c.entities, c.rules⟩

/-! ### Looking up -/

/-- The entity of a name in a list of entities, up to case. -/
def findEntity? (entities : List Entity) (name : String) : Option Entity :=
  entities.find? fun e => Text.lower e.name == Text.lower name

/-- The entity of a name, up to case. -/
def entity? (c : Catalog) (name : String) : Option Entity :=
  findEntity? c.entities name

/-- The entity of a name, or the error that there is none. -/
def requireEntity (c : Catalog) (name : String) : Except SearchError Entity :=
  match c.entity? name with
  | some e => .ok e
  | none => .error (.entityNotFound name)

/-- The active rules aimed at a name, up to ASCII case, in their order. -/
def activeRules (c : Catalog) (name : String) : List AccessRule :=
  c.rules.filter fun r => r.active && Text.sameIgnoringAsciiCase r.target name

/-- The entities that the bridges of an entity lead to, in the order of the bridges. -/
def bridged (c : Catalog) (root : Entity) : List Entity :=
  root.bridges.filterMap fun p => p.bridgeTarget?.bind c.entity?

/-! ### Checking -/

/-- No two entities may have the same name up to case; `seen` holds the names so far. -/
def checkNames (seen : List String) : List Entity → Except ConfigurationFault Unit
  | [] => .ok ()
  | e :: rest =>
    if Text.lower e.name ∈ seen then .error (.duplicateEntity e.name)
    else checkNames (Text.lower e.name :: seen) rest

/-- No two properties of an entity may have the same name up to case, and every bridge must lead to
an entity that no bridge before it leads to. -/
def checkProperties (entities : List Entity) (e : Entity) (names targets : List String) :
    List Property → Except ConfigurationFault Unit
  | [] => .ok ()
  | p :: rest =>
    if Text.lower p.name ∈ names then .error (.duplicateProperty e.name p.name)
    else if p.type ≠ .entity then
      checkProperties entities e (Text.lower p.name :: names) targets rest
    else match p.target with
      | none => .error (.bridgeWithoutTarget e.name p.name)
      | some target =>
        if (findEntity? entities target).isNone then
          .error (.unknownBridgeTarget e.name p.name target)
        else if Text.lower target ∈ targets then .error (.repeatedBridge e.name target)
        else
          checkProperties entities e (Text.lower p.name :: names) (Text.lower target :: targets)
            rest

/-- A condition of a rule must name an entity and a property of it, and have as many values as its
operator takes. -/
def checkCondition (entities : List Entity) (rule : String) (c : RuleCondition) :
    Except ConfigurationFault Unit :=
  match findEntity? entities c.property.entity with
  | none => .error (.unknownRuleEntity rule c.property.entity)
  | some owner =>
    if (owner.property? c.property.property).isNone then
      .error (.unknownRuleProperty rule c.property)
    else if !c.hasArity then .error (.ruleArity rule c.values.length c.operator)
    else .ok ()

/-- A rule must be aimed at an entity, and its conditions must pass. -/
def checkRule (entities : List Entity) (r : AccessRule) : Except ConfigurationFault Unit :=
  if (findEntity? entities r.target).isNone then .error (.unknownRuleTarget r.name r.target)
  else r.conditions.forM (checkCondition entities r.name)

/-- Checks entities and rules against each other: first the names of the entities, then each entity,
then each rule. -/
def check (m : Metadata) : Except ConfigurationFault Unit := do
  checkNames [] m.entities
  m.entities.forM fun e => checkProperties m.entities e [] [] e.properties
  m.rules.forM (checkRule m.entities)

/-- The catalog of metadata that passes the checks. -/
def build (m : Metadata) : Except SearchError Catalog :=
  match check m with
  | .ok () => .ok ⟨m.entities, m.rules, 0⟩
  | .error fault => .error (.configuration fault)

theorem build_eq_ok_iff {m : Metadata} {c : Catalog} :
    build m = .ok c ↔ check m = .ok () ∧ c = ⟨m.entities, m.rules, 0⟩ := by
  unfold build
  cases h : check m with
  | error fault => simp
  | ok u => simp [eq_comm]

end Catalog

end GuardedSearch
