import GuardedSearch.Proofs.Catalog.Checked
import GuardedSearch.Proofs.Lookup

/-!
# Consistent metadata

The checks go through entities, properties, rules and conditions with the names seen so far in their
hands, and stop at the first fault. What they accept can be said without that order: names are
distinct, and whatever names an entity or a property names one that is there.

Names are compared in two ways. Those that must be distinct are compared up to full case, and so are
names of entities wherever one is looked up; properties are looked up up to ASCII case only.

## Main definitions

* `Metadata.Consistent` — what it is for entities and rules to fit together
* `Fresh` — keys that are distinct, and none of which has been seen before

## Main results

* `checkNames_eq_ok_iff`, `checkProperties_eq_ok_iff` — what the passes with names in hand accept
* `Catalog.check_eq_ok_iff_consistent` — the checks accept the consistent metadata, and no other
* `Catalog.Obtained.consistent`, `Catalog.obtained_of_consistent` — the catalogs that can be come by
* `Catalog.entity?_eq_some_iff` — a name leads to the one entity with that name
* `build_iff_consistent` — both together, for a catalog that was built
-/

namespace GuardedSearch

/-! ### Consistency -/

/-- Entities and rules that fit together. -/
structure Metadata.Consistent (m : Metadata) : Prop where
  /-- Entities differ in their names up to case. -/
  entityNames : (m.entities.map fun e => Text.lower e.name).Nodup
  /-- Properties of one entity differ in their names up to case. -/
  propertyNames : ∀ e ∈ m.entities, (e.properties.map fun p => Text.lower p.name).Nodup
  /-- A property of type `entity` leads to an entity. -/
  bridgesLead : ∀ e ∈ m.entities, ∀ p ∈ e.properties, p.type = .entity →
    ∃ target, p.target = some target ∧
      ∃ reached ∈ m.entities, Text.lower reached.name = Text.lower target
  /-- Properties of one entity that lead to entities differ in what they lead to. -/
  bridgeTargets : ∀ e ∈ m.entities,
    ((e.properties.filterMap Property.bridgeTarget?).map Text.lower).Nodup
  /-- A rule, active or not, is aimed at an entity. -/
  ruleTargets : ∀ r ∈ m.rules, ∃ e ∈ m.entities, Text.lower e.name = Text.lower r.target
  /-- A condition of a rule names an entity and a property of it. -/
  ruleProperties : ∀ r ∈ m.rules, ∀ k ∈ r.conditions,
    ∃ owner ∈ m.entities, Text.lower owner.name = Text.lower k.property.entity ∧
      ∃ p ∈ owner.properties, Text.sameIgnoringAsciiCase p.name k.property.property = true
  /-- A condition of a rule has the values that its operator takes. -/
  ruleValues : ∀ r ∈ m.rules, ∀ k ∈ r.conditions,
    (k.operator = .oneOf → 1 ≤ k.values.length) ∧ (k.operator ≠ .oneOf → k.values.length = 1)

namespace Catalog

theorem isSome_findEntity?_iff {entities : List Entity} {name : String} :
    (findEntity? entities name).isSome ↔ ∃ e ∈ entities, Text.lower e.name = Text.lower name := by
  rw [findEntity?, List.find?_isSome]
  simp only [beq_iff_eq]

/-! ### Passes with keys in hand -/

/-- Keys that are distinct, and none of which is among those seen before. -/
def Fresh (seen keys : List String) : Prop :=
  keys.Nodup ∧ ∀ k ∈ keys, k ∉ seen

theorem fresh_nil {seen : List String} : Fresh seen [] :=
  ⟨List.nodup_nil, fun _ h => nomatch h⟩

theorem fresh_nil_left_iff {keys : List String} : Fresh [] keys ↔ keys.Nodup :=
  ⟨And.left, fun h => ⟨h, fun _ _ => List.not_mem_nil⟩⟩

/-- The step of a pass: the next key has not been seen, and is seen from then on. -/
theorem fresh_cons_iff {seen keys : List String} {k : String} :
    Fresh seen (k :: keys) ↔ k ∉ seen ∧ Fresh (k :: seen) keys := by
  constructor
  · rintro ⟨hnodup, hseen⟩
    obtain ⟨hk, hnodup⟩ := List.nodup_cons.mp hnodup
    refine ⟨hseen k List.mem_cons_self, hnodup, fun x hx hmem => ?_⟩
    rcases List.mem_cons.mp hmem with rfl | hmem
    · exact hk hx
    · exact hseen x (List.mem_cons_of_mem k hx) hmem
  · rintro ⟨hk, hnodup, hseen⟩
    refine ⟨List.nodup_cons.mpr ⟨fun hmem => hseen k hmem List.mem_cons_self, hnodup⟩, ?_⟩
    intro x hx hmem
    rcases List.mem_cons.mp hx with rfl | hx
    · exact hk hmem
    · exact hseen x hx (List.mem_cons_of_mem k hmem)

theorem checkNames_eq_ok_iff {seen : List String} {entities : List Entity} :
    checkNames seen entities = .ok () ↔
      Fresh seen (entities.map fun e => Text.lower e.name) := by
  induction entities generalizing seen with
  | nil => exact iff_of_true rfl fresh_nil
  | cons e rest ih =>
    rw [checkNames, List.map_cons, fresh_cons_iff]
    split
    case isTrue h => exact iff_of_false nofun fun hfresh => hfresh.1 h
    case isFalse h => rw [ih, and_iff_right h]

/-- A property of type `entity` names an entity. -/
def Leads (entities : List Entity) (p : Property) : Prop :=
  p.type = .entity →
    ∃ target, p.target = some target ∧ (findEntity? entities target).isSome

/-- A pass over properties has two kinds of keys in hand: names, and where bridges lead. -/
theorem checkProperties_eq_ok_iff {entities : List Entity} {e : Entity}
    {names targets : List String} {ps : List Property} :
    checkProperties entities e names targets ps = .ok () ↔
      Fresh names (ps.map fun p => Text.lower p.name) ∧ (∀ p ∈ ps, Leads entities p) ∧
        Fresh targets ((ps.filterMap Property.bridgeTarget?).map Text.lower) := by
  induction ps generalizing names targets with
  | nil => exact iff_of_true rfl ⟨fresh_nil, nofun, fresh_nil⟩
  | cons p rest ih =>
    rw [checkProperties, List.map_cons, fresh_cons_iff, List.forall_mem_cons]
    split
    case isTrue h => exact iff_of_false nofun fun hall => hall.1.1 h
    case isFalse hname =>
      split
      case isTrue htype =>
        have hleads : Leads entities p := fun h => absurd h htype
        have htarget : p.bridgeTarget? = none := if_neg htype
        rw [ih, List.filterMap_cons_none htarget, and_iff_right hname, and_iff_right hleads]
      case isFalse htype =>
        have htype : p.type = .entity := Decidable.not_not.mp htype
        cases htarget : p.target with
        | none =>
          refine iff_of_false nofun fun hall => ?_
          obtain ⟨target, hsome, -⟩ := hall.2.1.1 htype
          exact nomatch htarget.symm.trans hsome
        | some target =>
          have hbridge : p.bridgeTarget? = some target := (if_pos htype).trans htarget
          have hleads : Leads entities p ↔ (findEntity? entities target).isSome := by
            simp [Leads, htype, htarget]
          rw [List.filterMap_cons_some hbridge, List.map_cons, fresh_cons_iff, hleads]
          dsimp only
          split
          case isTrue hnone =>
            refine iff_of_false nofun fun hall => ?_
            rw [Option.isNone_iff_eq_none] at hnone
            exact nomatch hnone ▸ hall.2.1.1
          case isFalse hsome =>
            rw [Bool.not_eq_true, Option.isNone_eq_false_iff] at hsome
            split
            case isTrue h => exact iff_of_false nofun fun hall => hall.2.2.1 h
            case isFalse hfresh =>
              rw [ih, and_iff_right hname, and_iff_right hsome, and_iff_right hfresh]

/-! ### The checks as a whole -/

theorem findEntity?_eq_some_iff {entities : List Entity}
    (h : (entities.map fun e => Text.lower e.name).Nodup) {name : String} {e : Entity} :
    findEntity? entities name = some e ↔ e ∈ entities ∧ Text.lower e.name = Text.lower name :=
  find?_eq_some_iff_of_nodup h

theorem hasArity_iff {k : RuleCondition} :
    k.hasArity = true ↔ (k.operator = .oneOf → 1 ≤ k.values.length) ∧
      (k.operator ≠ .oneOf → k.values.length = 1) := by
  obtain ⟨property, operator, values⟩ := k
  cases operator with
  | oneOf => simp [RuleCondition.hasArity, RuleOperator.isScalar, Nat.one_le_iff_ne_zero]
  | _ => simp [RuleCondition.hasArity, RuleOperator.isScalar]

/-- **The checks accept the consistent metadata.** -/
theorem check_eq_ok_iff_consistent {m : Metadata} : check m = .ok () ↔ m.Consistent := by
  simp only [check_eq_ok_iff, checkNames_eq_ok_iff, checkProperties_eq_ok_iff, checkRule_eq_ok_iff,
    checkCondition_eq_ok_iff, fresh_nil_left_iff, isSome_findEntity?_iff, hasArity_iff]
  constructor
  · rintro ⟨hnames, hproperties, hrules⟩
    refine ⟨hnames, fun e he => (hproperties e he).1, fun e he p hp htype => ?_,
      fun e he => (hproperties e he).2.2, fun r hr => (hrules r hr).1, fun r hr k hk => ?_,
      fun r hr k hk => ?_⟩
    · obtain ⟨target, htarget, hsome⟩ := (hproperties e he).2.1 p hp htype
      exact ⟨target, htarget, isSome_findEntity?_iff.mp hsome⟩
    · obtain ⟨owner, howner, hp, -⟩ := (hrules r hr).2 k hk
      obtain ⟨hmem, hname⟩ := (findEntity?_eq_some_iff hnames).mp howner
      exact ⟨owner, hmem, hname, List.find?_isSome.mp hp⟩
    · obtain ⟨owner, -, -, harity⟩ := (hrules r hr).2 k hk
      exact harity
  · intro h
    refine ⟨h.entityNames, fun e he => ⟨h.propertyNames e he, fun p hp htype => ?_,
      h.bridgeTargets e he⟩, fun r hr => ⟨h.ruleTargets r hr, fun k hk => ?_⟩⟩
    · obtain ⟨target, htarget, hreached⟩ := h.bridgesLead e he p hp htype
      exact ⟨target, htarget, isSome_findEntity?_iff.mpr hreached⟩
    · obtain ⟨owner, hmem, hname, hp⟩ := h.ruleProperties r hr k hk
      exact ⟨owner, (findEntity?_eq_some_iff h.entityNames).mpr ⟨hmem, hname⟩,
        List.find?_isSome.mpr hp, h.ruleValues r hr k hk⟩

theorem Obtained.consistent {c : Catalog} (h : c.Obtained) : c.metadata.Consistent :=
  check_eq_ok_iff_consistent.mp h.check_eq_ok

/-- A catalog that was built is consistent. -/
theorem consistent_of_build {m : Metadata} {c : Catalog} (h : build m = .ok c) :
    c.metadata.Consistent :=
  (Obtained.built h).consistent

/-- Every consistent catalog can be come by, in whatever generation. -/
theorem obtained_of_consistent {c : Catalog} (h : c.metadata.Consistent) : c.Obtained := by
  have hbuild : build c.metadata = .ok (c.withGeneration 0) :=
    build_eq_ok_iff.mpr ⟨check_eq_ok_iff_consistent.mpr h, rfl⟩
  have hfirst : (c.withGeneration 0).Obtained := .built hbuild
  exact hfirst.published c.generation

/-- A name leads to the one entity whose name is the same up to case. -/
theorem entity?_eq_some_iff {c : Catalog} (h : c.metadata.Consistent) {name : String} {e : Entity} :
    c.entity? name = some e ↔ e ∈ c.entities ∧ Text.lower e.name = Text.lower name :=
  findEntity?_eq_some_iff h.entityNames

end Catalog

/-- **Metadata is accepted exactly if it is consistent**, and otherwise refused for a fault in it.
The catalog keeps the entities and rules as they are, and a name leads in it to the one entity whose
name is the same up to case, if there is one. -/
theorem build_iff_consistent (m : Metadata) :
    ((∃ c, Catalog.build m = .ok c) ↔ m.Consistent) ∧
      ((∃ fault, Catalog.build m = .error (.configuration fault)) ↔ ¬ m.Consistent) ∧
      ∀ c, Catalog.build m = .ok c →
        c.entities = m.entities ∧ c.rules = m.rules ∧
        ∀ name, (∀ e, c.entity? name = some e ↔
            e ∈ m.entities ∧ Text.lower e.name = Text.lower name) ∧
          (c.entity? name = none ↔ ∀ e ∈ m.entities, Text.lower e.name ≠ Text.lower name) := by
  rw [← Catalog.check_eq_ok_iff_consistent]
  refine ⟨?_, ?_, fun c hc => ?_⟩
  · simp only [Catalog.build_eq_ok_iff, exists_and_left, exists_eq, and_true]
  · rw [Catalog.build]
    cases Catalog.check m with
    | ok _ => simp
    | error fault => simp
  · have hconsistent := Catalog.consistent_of_build hc
    obtain ⟨-, rfl⟩ := Catalog.build_eq_ok_iff.mp hc
    refine ⟨rfl, rfl, fun name => ⟨fun e => Catalog.entity?_eq_some_iff hconsistent, ?_⟩⟩
    rw [Catalog.entity?, Catalog.findEntity?, List.find?_eq_none]
    simp only [beq_iff_eq, ne_eq]

/-- Projects with their tasks are consistent, and the bridge to tasks may be spelled in capitals. -/
theorem entity?_projectCatalog_upperCase :
    let properties := [.field 2 "title" .string, .bridge 3 "tasks" "TASK"]
    Catalog.build (projectMetadata properties) = .ok (projectCatalog properties) ∧
      (projectMetadata properties).Consistent ∧
      (projectCatalog properties).entity? "TASK" = some taskEntity := by
  intro properties
  have hbuild := build_projectMetadata properties (by decide +kernel)
  obtain ⟨haccepted, -, hkept⟩ := build_iff_consistent (projectMetadata properties)
  obtain ⟨-, -, hfound⟩ := hkept _ hbuild
  refine ⟨hbuild, haccepted.mp ⟨_, hbuild⟩, ((hfound "TASK").1 taskEntity).mpr ⟨?_, ?_⟩⟩
  · exact List.mem_cons_self
  · decide +kernel

end GuardedSearch
