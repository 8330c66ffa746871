import GuardedSearch.Proofs.Catalog.Naming
import GuardedSearch.Proofs.Condition.Agreement
import GuardedSearch.Proofs.Sorting.Bounds
import GuardedSearch.Aggregation

/-!
# One name in all parts of a request

Filters, sorts, facets and statistics look a name up each for themselves, and each puts its own
checks on the type of what it finds. What they find is the same all the same: either the name is
refused by all of them with one error, or there is one path at which all of them read the values
whose checks the type passes. A description of an entity builds its paths without looking names up
at all; it still gives for every property the path at which a request to that entity reads it.

## Main definitions

* `Scope.Refuses` — all parts of a request refuse a name with the same error
* `Scope.ReadsAt` — all parts of a request read a name at the same path
* `Property.description` — what a description says of a property

## Main results

* `Catalog.target_cases` — a name has one path or is not found
* `Scope.refuses_of_target`, `Scope.readsAt_of_target` — looking a name up decides for all parts
* `names_read_alike` — every name, and every property that is described
-/

namespace GuardedSearch

/-! ### Parts of a request -/

namespace Scope

variable {s : Scope} {name : String}

/-- A filter, a sort, a facet and statistics on the name fail with the same error. -/
structure Refuses (s : Scope) (name : String) (e : SearchError) : Prop where
  filter : ∀ v, Predicate.ofCondition s (.one name (.eq v)) = .error e
  sort : ∀ direction, s.sortKeys [⟨name, direction⟩] = .error e
  facet : ∀ cap, s.facets cap [name] = .error e
  statistics : ∀ cap, s.statistics cap [name] = .error e

/-- A filter, a sort, a facet and statistics on the name read values at the path, each unless its
own check refuses their type. At a path that no property describes, nothing is refused. -/
structure ReadsAt (s : Scope) (name path : String) (type : Option DataType) : Prop where
  /-- A filter refuses values that cannot be made values of the type. -/
  filter : ∀ v, Predicate.ofCondition s (.one name (.eq v)) =
    Predicate.term path <$> type.elim (.ok v) fun ty => v.coerce ty name
  /-- There is no sorting by bridges. -/
  sort : ∀ direction, s.sortKeys [⟨name, direction⟩] =
    if type = some .entity then .error (.invalidRequest (.entitySort name))
    else .ok [⟨path, direction⟩]
  /-- There are no facets of bridges. -/
  facet : ∀ cap, s.facets cap [name] =
    if type = some .entity then .error (.invalidRequest (.entityFacet name))
    else .ok [⟨name, name, path, type, cap⟩]
  /-- There are statistics of numbers only. -/
  statistics : ∀ cap, s.statistics cap [name] =
    match type.filter (!·.isNumeric) with
    | some ty => .error (.typeMismatch name .double ty.name)
    | none => .ok [⟨Aggregation.statisticsName name, name, path, type, cap⟩]

/-- One facet becomes one aggregation, unless it is one of a bridge. -/
theorem facets_one (s : Scope) (cap : Nat) (name : String) :
    s.facets cap [name] = s.target name >>= fun t =>
      if t.type = some .entity then .error (.invalidRequest (.entityFacet name))
      else .ok [⟨name, name, t.paths.exact, t.type, cap⟩] := by
  rw [facets, show [name].eraseDups = [name] from rfl, List.mapM_cons, List.mapM_nil, facet]
  cases s.target name with
  | error e => rfl
  | ok t =>
    by_cases h : t.type = some .entity
    · simp only [ok_bind, if_pos h]
      rfl
    · simp only [ok_bind, if_neg h]
      rfl

/-- Statistics of one key become one aggregation, unless the values are not declared as numbers. -/
theorem statistics_one (s : Scope) (cap : Nat) (name : String) :
    s.statistics cap [name] = s.target name >>= fun t =>
      match t.type.filter (!·.isNumeric) with
      | some ty => .error (.typeMismatch name .double ty.name)
      | none => .ok [⟨Aggregation.statisticsName name, name, t.paths.exact, t.type, cap⟩] := by
  rw [statistics, show [name].eraseDups = [name] from rfl, List.mapM_cons, List.mapM_nil, statistic]
  cases s.target name with
  | error e => rfl
  | ok t =>
    obtain ⟨paths, type⟩ := t
    rcases type with _ | type
    · rfl
    · cases type <;> rfl

/-- If a name cannot be looked up, every part of a request says why. -/
theorem refuses_of_target (hdepth : 1 ≤ s.maxDepth) {e : SearchError}
    (h : s.target name = .error e) : s.Refuses name e where
  filter v := by rw [Predicate.ofCondition_one hdepth, h]; rfl
  sort direction := by rw [sortKeys_one, h]; rfl
  facet cap := by rw [facets_one, h]; rfl
  statistics cap := by rw [statistics_one, h]; rfl

/-- If a name can be looked up, every part of a request uses what was found. -/
theorem readsAt_of_target (hdepth : 1 ≤ s.maxDepth) {path : String} {type : Option DataType}
    (h : s.target name = .ok ⟨.ofPath path, type⟩) : s.ReadsAt name path type where
  filter v := by
    rw [Predicate.ofCondition_one hdepth, h, ok_bind, Target.predicate_eq, PathPair.exact_ofPath]
    cases type <;> rfl
  sort direction := by rw [sortKeys_one, h, ok_bind, PathPair.exact_ofPath]
  facet cap := by rw [facets_one, h, ok_bind, PathPair.exact_ofPath]
  statistics cap := by rw [statistics_one, h, ok_bind, PathPair.exact_ofPath]

end Scope

/-! ### Looking up -/

/-- What a description says of a property: its path is the one in documents of its own entity. -/
def Property.description (p : Property) : PropertyDescription :=
  ⟨p.name, p.type, p.ownPath⟩

namespace Catalog

variable {c : Catalog} {root : Entity} {name : String}

theorem named_of_property? {p : Property} (h : root.property? name = some p) :
    Text.sameIgnoringAsciiCase p.name name = true := by
  rw [Entity.property?] at h
  simpa using List.find?_some h

theorem named_of_find? {x : OwnedProperty} (h : c.find? root name = some x) :
    Text.sameIgnoringAsciiCase x.property.name name = true := by
  rw [find?] at h
  cases hp : root.property? name with
  | some p =>
    rw [hp] at h
    cases h
    exact named_of_property? hp
  | none =>
    rw [hp] at h
    obtain ⟨child, -, hchild⟩ := List.exists_of_findSome?_eq_some h
    obtain ⟨p, hp, rfl⟩ := Option.map_eq_some_iff.mp hchild
    exact named_of_property? hp

theorem pathFrom_cases (root : Entity) (x : OwnedProperty) :
    (∃ path, pathFrom root x = .ok path) ∨
      pathFrom root x = .error (.fieldNotFound x.property.name root.name) := by
  rw [pathFrom]
  by_cases hown : x.owner.isNamed root.name = true
  · exact .inl ⟨_, if_pos hown⟩
  · rw [if_neg hown]
    cases root.bridgeTo? x.owner.name with
    | some b => exact .inl ⟨_, rfl⟩
    | none => exact .inr rfl

/-- **A name has one path or is not found.** The error gives the name as it was written, or as the
property is declared that has no path. -/
theorem target_cases (c : Catalog) (root : Entity) (name : String) :
    (∃ path type, c.target root name = .ok ⟨.ofPath path, type⟩) ∨
      ∃ field, Text.sameIgnoringAsciiCase field name = true ∧
        c.target root name = .error (.fieldNotFound field root.name) := by
  cases hfind : c.find? root name with
  | some x =>
    rw [target_of_find? hfind, pathsFrom]
    rcases pathFrom_cases root x with ⟨path, hpath⟩ | hpath
    · rw [hpath]
      exact .inl ⟨path, some x.property.type, rfl⟩
    · rw [hpath]
      exact .inr ⟨x.property.name, named_of_find? hfind, rfl⟩
  | none =>
    rw [target_of_find?_eq_none hfind]
    by_cases hdot : '.' ∈ name.toList
    · exact .inl ⟨name, none, if_pos hdot⟩
    · exact .inr ⟨name, Text.sameIgnoringAsciiCase_refl name, if_neg hdot⟩

theorem target_own (hc : c.metadata.Consistent) (hroot : root ∈ c.entities) {p : Property}
    (hp : p ∈ root.properties) (hname : Text.sameIgnoringAsciiCase p.name name = true) :
    c.target root name = .ok ⟨.ofPath p.ownPath, some p.type⟩ :=
  (target_eq_ok_iff hc hroot).mpr
    (.inl ⟨⟨root, p⟩, .ofPath p.ownPath, .own hp hname, pathsFrom_self root p, rfl⟩)

theorem describe_eq_ok {entity : String} (h : c.entity? entity = some root) :
    c.describe entity = .ok (root.properties.map Property.description) := by
  rw [describe, requireEntity, h]
  refine mapM_eq_ok_map fun p _ => ?_
  rw [pathFrom_self]
  rfl

end Catalog

/-! ### All names -/

/-- **All parts of a request read a name alike.** A name is refused by filters, sorts, facets and
statistics with one and the same error, or it has one path at which all of them read it that accept
its type. The description of the root lists its properties in their order, and the path it gives for
each is the one at which requests read the property, however they spell its name. -/
theorem names_read_alike {s : Scope} (hc : s.catalog.Obtained) {root : Entity}
    (hroot : root ∈ s.catalog.entities)
    (hentity : Text.lower root.name = Text.lower s.entity) (hdepth : 1 ≤ s.maxDepth) :
    (∀ name, (∃ field, Text.sameIgnoringAsciiCase field name = true ∧
        s.Refuses name (.fieldNotFound field root.name)) ∨
      ∃ path type, s.ReadsAt name path type) ∧
    s.catalog.describe s.entity = .ok (root.properties.map Property.description) ∧
    ∀ p ∈ root.properties, ∀ name, Text.sameIgnoringAsciiCase p.name name = true →
      s.ReadsAt name p.description.path (some p.description.type) := by
  have hconsistent := hc.consistent
  have hentity : s.catalog.entity? s.entity = some root :=
    (Catalog.entity?_eq_some_iff hconsistent).mpr ⟨hroot, hentity⟩
  have htarget : ∀ name, s.target name = s.catalog.target root name := by
    intro name
    rw [Scope.target, Scope.root_eq_ok_iff.mpr hentity, ok_bind]
  refine ⟨fun name => ?_, Catalog.describe_eq_ok hentity, fun p hp name hname => ?_⟩
  · rcases s.catalog.target_cases root name with ⟨path, type, hfound⟩ | ⟨field, hfield, hlost⟩
    · exact .inr ⟨path, type, Scope.readsAt_of_target hdepth ((htarget name).trans hfound)⟩
    · exact .inl ⟨field, hfield, Scope.refuses_of_target hdepth ((htarget name).trans hlost)⟩
  · have hown := Catalog.target_own hconsistent hroot hp hname
    exact Scope.readsAt_of_target hdepth ((htarget name).trans hown)

/-- The description of projects, and a request for the titles of projects. -/
theorem names_read_alike_title :
    let project := projectEntity [.field 2 "title" .string, .bridge 3 "tasks" "TASK"]
    let s : Scope := ⟨projectCatalog project.properties, "PROJECT", 1⟩
    Catalog.build (projectMetadata project.properties) = .ok s.catalog ∧
      project ∈ s.catalog.entities ∧ Text.lower project.name = Text.lower s.entity ∧
      1 ≤ s.maxDepth ∧
      s.catalog.describe "PROJECT" =
        .ok [⟨"title", .string, "title"⟩, ⟨"tasks", .entity, "tasks"⟩] ∧
      s.ReadsAt "Title" "title" (some .string) := by
  intro project s
  have hcheck : Catalog.check (projectMetadata project.properties) = .ok () := by decide +kernel
  have hbuild : Catalog.build (projectMetadata project.properties) = .ok s.catalog :=
    build_projectMetadata project.properties hcheck
  have hmem : project ∈ s.catalog.entities := projectEntity_mem project.properties
  have hname : Text.lower project.name = Text.lower s.entity := by decide +kernel
  obtain ⟨-, hdescribe, hown⟩ := names_read_alike (.built hbuild) hmem hname (Nat.le_refl 1)
  have htitle : Property.field 2 "title" .string ∈ project.properties := List.mem_cons_self
  exact ⟨hbuild, hmem, hname, Nat.le_refl 1, hdescribe, hown _ htitle "Title" (by decide +kernel)⟩

end GuardedSearch
