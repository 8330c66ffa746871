import GuardedSearch.Catalog.Basic
import GuardedSearch.Document
import GuardedSearch.Proofs.Stages
import GuardedSearch.Proofs.Text.CaseFolding

/-!
# What checked metadata promises

A catalog that was built has passed every check, and publishing it changes nothing but the number of
its generation. The lemmas here say what the checks of rules come to, so that nothing later has to
open them.

## Main definitions

* `Catalog.Obtained` — the catalogs that there is a way to come by

## Main results

* `entity?_congr` — an entity is found under every spelling with the same lower-case form
* `check_eq_ok_iff`, `checkRule_eq_ok_iff`, `checkCondition_eq_ok_iff` — what it is to pass a check
* `Obtained.checked` — what a condition of a rule can rely on
* `build_withoutRules` — metadata stays good if its rules are dropped
-/

namespace GuardedSearch

namespace Catalog

/-! ### Looking up -/

theorem entity?_congr (c : Catalog) {a b : String} (h : Text.lower a = Text.lower b) :
    c.entity? a = c.entity? b := by
  simp only [entity?, findEntity?, h]

/-- Two names that are the same up to ASCII case name the same entity. -/
theorem entity?_eq_of_sameIgnoringAsciiCase (c : Catalog) {a b : String}
    (h : Text.sameIgnoringAsciiCase a b = true) : c.entity? a = c.entity? b :=
  c.entity?_congr (Text.lower_eq_of_foldAscii_eq (Text.sameIgnoringAsciiCase_iff.mp h))

/-! ### Checking -/

theorem checkCondition_eq_ok_iff {entities : List Entity} {rule : String} {k : RuleCondition} :
    checkCondition entities rule k = .ok () ↔
      ∃ owner, findEntity? entities k.property.entity = some owner ∧
        (owner.property? k.property.property).isSome ∧ k.hasArity = true := by
  rw [checkCondition]
  cases findEntity? entities k.property.entity with
  | none => simp
  | some owner =>
    cases hp : owner.property? k.property.property with
    | none => simp [hp]
    | some p => cases k.hasArity <;> simp [hp]

theorem checkRule_eq_ok_iff {entities : List Entity} {r : AccessRule} :
    checkRule entities r = .ok () ↔
      (findEntity? entities r.target).isSome ∧
        ∀ k ∈ r.conditions, checkCondition entities r.name k = .ok () := by
  rw [checkRule]
  cases findEntity? entities r.target with
  | none => simp
  | some e => simp

theorem check_eq_ok_iff {m : Metadata} :
    check m = .ok () ↔
      checkNames [] m.entities = .ok () ∧
        (∀ e ∈ m.entities, checkProperties m.entities e [] [] e.properties = .ok ()) ∧
        ∀ r ∈ m.rules, checkRule m.entities r = .ok () := by
  simp [check]

/-! ### Catalogs that were checked -/

/-- Catalogs that can be published: those that were built, and those that were published before. -/
inductive Obtained : Catalog → Prop
  | empty : Obtained .empty
  | built {m : Metadata} {c : Catalog} (h : build m = .ok c) : Obtained c
  | published {c : Catalog} (generation : Nat) (h : Obtained c) :
      Obtained (c.withGeneration generation)

section

variable {c : Catalog}

theorem Obtained.check_eq_ok (h : c.Obtained) : check c.metadata = .ok () := by
  induction h with
  | empty => rfl
  | built h =>
    obtain ⟨hcheck, rfl⟩ := build_eq_ok_iff.mp h
    exact hcheck
  | published _ _ ih => exact ih

/-- Every condition of every rule names an entity and a property of it, and has the values that its
operator takes. -/
theorem Obtained.checked (h : c.Obtained) {r : AccessRule} (hr : r ∈ c.rules) {k : RuleCondition}
    (hk : k ∈ r.conditions) :
    ∃ owner, c.entity? k.property.entity = some owner ∧
      (owner.property? k.property.property).isSome ∧ k.hasArity = true := by
  have hrule := (check_eq_ok_iff.mp h.check_eq_ok).2.2 r hr
  exact checkCondition_eq_ok_iff.mp ((checkRule_eq_ok_iff.mp hrule).2 k hk)

theorem Obtained.hasArity (h : c.Obtained) {r : AccessRule} (hr : r ∈ c.rules) {k : RuleCondition}
    (hk : k ∈ r.conditions) : k.hasArity = true := by
  obtain ⟨owner, -, -, harity⟩ := h.checked hr hk
  exact harity

end

/-! ### Dropping rules -/

/-- The same catalog with no rules in force. -/
def withoutRules (c : Catalog) : Catalog :=
  { c with rules := [] }

/-- Metadata stays good if its rules are dropped. -/
theorem build_withoutRules {m : Metadata} {c : Catalog} (h : build m = .ok c) :
    build { m with rules := [] } = .ok c.withoutRules := by
  obtain ⟨hcheck, rfl⟩ := build_eq_ok_iff.mp h
  obtain ⟨hnames, hproperties, -⟩ := check_eq_ok_iff.mp hcheck
  refine build_eq_ok_iff.mpr ⟨check_eq_ok_iff.mpr ⟨hnames, hproperties, ?_⟩, rfl⟩
  intro r hr
  cases hr

end Catalog

/-! ### A catalog of tasks

The smallest catalog in which a rule hides something, to show statements at work. -/

/-- The entity of tasks, each of which has an owner. -/
def taskEntity : Entity :=
  ⟨1, "Task", true, [.field 1 "owner" .string]⟩

/-- Tasks, of which only those that Ann owns are to be seen. -/
def taskMetadata : Metadata :=
  ⟨[taskEntity], [⟨1, "Own tasks only", true, "Task", [⟨⟨"Task", "owner"⟩, .eq, ["ann"]⟩]⟩]⟩

/-- The catalog of tasks. -/
def taskCatalog : Catalog :=
  ⟨taskMetadata.entities, taskMetadata.rules, 0⟩

theorem build_taskMetadata : Catalog.build taskMetadata = .ok taskCatalog := rfl

/-- The task that a person owns. -/
def task (owner : String) : Document :=
  ⟨0, .object [("owner", .string owner)]⟩

/-! ### Catalogs of projects

Names can be misread where one entity leads to another. A rule for projects is about their tasks,
and the properties of projects are left open. -/

/-- The entity of projects with the given properties. -/
def projectEntity (properties : List Property) : Entity :=
  ⟨2, "Project", true, properties⟩

/-- Tasks, and projects of which only those with a task of Ann's are to be seen. -/
def projectMetadata (properties : List Property) : Metadata :=
  ⟨[taskEntity, projectEntity properties],
    [⟨2, "Projects with a task of Ann's", true, "Project", [⟨⟨"Task", "owner"⟩, .eq, ["ann"]⟩]⟩]⟩

/-- The catalog of tasks and projects. -/
def projectCatalog (properties : List Property) : Catalog :=
  ⟨(projectMetadata properties).entities, (projectMetadata properties).rules, 0⟩

theorem projectEntity_mem (properties : List Property) :
    projectEntity properties ∈ (projectCatalog properties).entities :=
  List.mem_cons_of_mem taskEntity (List.mem_singleton_self _)

theorem build_projectMetadata (properties : List Property)
    (h : Catalog.check (projectMetadata properties) = .ok ()) :
    Catalog.build (projectMetadata properties) = .ok (projectCatalog properties) :=
  Catalog.build_eq_ok_iff.mpr ⟨h, rfl⟩

end GuardedSearch
