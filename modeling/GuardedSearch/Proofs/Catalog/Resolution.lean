import GuardedSearch.Proofs.Catalog.Consistency
import GuardedSearch.Predicate.OfText
import Mathlib.Data.List.Pairwise

/-!
# Where the values of a name lie

A name is looked for among the root's own properties and then behind its bridges, in their order. In
consistent metadata every step of this has one answer at most: a name fits one property of an
entity, and one bridge leads to an entity. So the path of a name can be told from the declarations,
without running the search for it.

One step asks more than was checked. A property behind a bridge is found by following the bridge, up
to the full case of the names; its path is then built by looking for the bridge again, from the name
of the entity that it led to and up to ASCII case only. A bridge that spells the name of its entity
with other letters is not found again. Such a bridge can be crossed but has no path.

## Main definitions

* `Catalog.reached?` — where a bridge leads
* `Catalog.FirstReached` — the bridge behind which a name is found
* `Property.spells` — whether a bridge spells the name of an entity as the entity does

## Main results

* `Catalog.property?_eq_some_iff`, `Catalog.bridgeTo?_of_reached` — lookups in consistent metadata
* `Catalog.pathFrom_of_reached` — the path to a property behind a bridge
* `Catalog.exists_textPaths_iff` — when free text has paths
* `target_of_build` — where the values of a name lie
* `target_kelvinSign_eq_fieldNotFound` — a bridge that can be crossed but has no path
-/

namespace GuardedSearch

/-! ### Roots -/

namespace Scope

variable {s : Scope} {root : Entity}

theorem root_eq_ok_iff : s.root = .ok root ↔ s.catalog.entity? s.entity = some root := by
  rw [Scope.root, Catalog.requireEntity]
  cases s.catalog.entity? s.entity with
  | none => simp
  | some e => simp

theorem root_mem (hc : s.catalog.metadata.Consistent) (h : s.root = .ok root) :
    root ∈ s.catalog.entities :=
  ((Catalog.entity?_eq_some_iff hc).mp (root_eq_ok_iff.mp h)).1

end Scope

/-- In every catalog of projects the name of projects leads to them. -/
theorem root_project {properties : List Property}
    (hc : Catalog.check (projectMetadata properties) = .ok ()) :
    Scope.root ⟨projectCatalog properties, "Project", 1⟩ = .ok (projectEntity properties) := by
  have hconsistent := Catalog.consistent_of_build (build_projectMetadata properties hc)
  exact Scope.root_eq_ok_iff.mpr
    ((Catalog.entity?_eq_some_iff hconsistent).mpr ⟨projectEntity_mem properties, rfl⟩)

/-! ### Properties -/

/-- Names that differ up to full case differ up to ASCII case. -/
theorem nodup_foldAscii_of_nodup_lower {α : Type} {name : α → String} {xs : List α}
    (h : (xs.map fun x => Text.lower (name x)).Nodup) :
    (xs.map fun x => Text.foldAscii (name x)).Nodup := by
  rw [List.Nodup, List.pairwise_map] at h ⊢
  exact h.imp fun hne hfold => hne (Text.lower_eq_of_foldAscii_eq hfold)

/-- The entity has no property of the name. -/
def Entity.Lacks (e : Entity) (name : String) : Prop :=
  ∀ p ∈ e.properties, Text.sameIgnoringAsciiCase p.name name = false

instance (e : Entity) (name : String) : Decidable (e.Lacks name) :=
  inferInstanceAs (Decidable (∀ p ∈ e.properties, Text.sameIgnoringAsciiCase p.name name = false))

theorem Entity.property?_eq_none_iff {e : Entity} {name : String} :
    e.property? name = none ↔ e.Lacks name := by
  rw [property?, List.find?_eq_none]
  simp only [Bool.not_eq_true, Lacks]

namespace Catalog

variable {c : Catalog} {root e : Entity} {name : String}

/-- A name fits one property of an entity at most. -/
theorem property?_eq_some_iff (hc : c.metadata.Consistent) (he : e ∈ c.entities) {p : Property} :
    e.property? name = some p ↔
      p ∈ e.properties ∧ Text.sameIgnoringAsciiCase p.name name = true := by
  rw [Text.sameIgnoringAsciiCase_iff]
  exact find?_eq_some_iff_of_nodup (nodup_foldAscii_of_nodup_lower (hc.propertyNames e he))

/-- An entity of the catalog that has the name of another is that entity. -/
theorem eq_of_isNamed (hc : c.metadata.Consistent) (he : e ∈ c.entities) (hroot : root ∈ c.entities)
    (h : e.isNamed root.name = true) : e = root := by
  have hlower := Text.lower_eq_of_foldAscii_eq (Text.sameIgnoringAsciiCase_iff.mp h)
  have hfound : c.entity? root.name = some root := (entity?_eq_some_iff hc).mpr ⟨hroot, rfl⟩
  have hfound' : c.entity? root.name = some e := (entity?_eq_some_iff hc).mpr ⟨he, hlower⟩
  exact Option.some.inj (hfound'.symm.trans hfound)

end Catalog

/-! ### Bridges -/

/-- The entity that a bridge leads to. -/
def Catalog.reached? (c : Catalog) (b : Property) : Option Entity :=
  b.bridgeTarget?.bind c.entity?

/-- Whether the bridge spells the name of the entity as the entity does, up to ASCII case. -/
def Property.spells (b : Property) (e : Entity) : Bool :=
  b.bridgeTarget?.any (Text.sameIgnoringAsciiCase · e.name)

namespace Catalog

variable {c : Catalog} {root e : Entity} {name : String} {b : Property}

theorem reached?_eq_some_iff (hc : c.metadata.Consistent) :
    c.reached? b = some e ↔ e ∈ c.entities ∧
      ∃ target, b.bridgeTarget? = some target ∧ Text.lower e.name = Text.lower target := by
  simp only [reached?, Option.bind_eq_some_iff, entity?_eq_some_iff hc]
  constructor
  · rintro ⟨target, htarget, he, hname⟩
    exact ⟨he, target, htarget, hname⟩
  · rintro ⟨he, target, htarget, hname⟩
    exact ⟨target, htarget, he, hname⟩

theorem reached?_of_spells (hc : c.metadata.Consistent) (he : e ∈ c.entities)
    (h : b.spells e = true) : c.reached? b = some e := by
  obtain ⟨target, htarget, hsame⟩ := (Option.any_eq_true _ _).mp h
  refine (reached?_eq_some_iff hc).mpr ⟨he, target, htarget, ?_⟩
  exact (Text.lower_eq_of_foldAscii_eq (Text.sameIgnoringAsciiCase_iff.mp hsame)).symm

/-- Two bridges of one entity that lead to the same entity are one. -/
theorem reached?_inj (hc : c.metadata.Consistent) (hroot : root ∈ c.entities) {b' : Property}
    (hb : b ∈ root.bridges) (hb' : b' ∈ root.bridges) (h : c.reached? b = some e)
    (h' : c.reached? b' = some e) : b = b' := by
  obtain ⟨-, target, htarget, hname⟩ := (reached?_eq_some_iff hc).mp h
  obtain ⟨-, target', htarget', hname'⟩ := (reached?_eq_some_iff hc).mp h'
  have hnodup := hc.bridgeTargets root hroot
  have hsame : target = target' :=
    List.inj_on_of_nodup_map hnodup
      (List.mem_filterMap.mpr ⟨b, List.mem_of_mem_filter hb, htarget⟩)
      (List.mem_filterMap.mpr ⟨b', List.mem_of_mem_filter hb', htarget'⟩) (hname.symm.trans hname')
  subst hsame
  -- distinct bridges come with distinct targets
  have hpairs := List.pairwise_filterMap.mp hnodup.of_map
  by_contra hne
  have : Std.Symm fun p q : Property =>
      ∀ t, p.bridgeTarget? = some t → ∀ u, q.bridgeTarget? = some u → t ≠ u :=
    ⟨fun p q hpq t ht u hu => (hpq u hu t ht).symm⟩
  exact hpairs.forall (List.mem_of_mem_filter hb) (List.mem_of_mem_filter hb') hne target htarget
    target htarget' rfl

/-- The bridge to an entity is found again if it spells the entity's name as the entity does, and
otherwise none is found. -/
theorem bridgeTo?_of_reached (hc : c.metadata.Consistent) (hroot : root ∈ c.entities)
    (hb : b ∈ root.bridges) (h : c.reached? b = some e) :
    root.bridgeTo? e.name = if b.spells e then some b else none := by
  have he : e ∈ c.entities := ((reached?_eq_some_iff hc).mp h).1
  have hother : ∀ b' ∈ root.bridges, b'.spells e = true → b = b' := fun b' hb' hspells =>
    reached?_inj hc hroot hb hb' h (reached?_of_spells hc he hspells)
  have hfind : root.bridgeTo? e.name = root.bridges.find? (·.spells e) := rfl
  rw [hfind]
  by_cases hspells : b.spells e = true
  · rw [if_pos hspells]
    have hsome : (root.bridges.find? (·.spells e)).isSome := List.find?_isSome.mpr ⟨b, hb, hspells⟩
    obtain ⟨b', hb'⟩ := Option.isSome_iff_exists.mp hsome
    have hspells' : b'.spells e = true := by simpa using List.find?_some hb'
    rw [hb', hother b' (List.mem_of_find?_eq_some hb') hspells']
  · rw [if_neg hspells, List.find?_eq_none]
    intro b' hb' hspells'
    rw [← hother b' hb' hspells'] at hspells'
    exact hspells hspells'

/-! ### Paths -/

theorem pathFrom_self (root : Entity) (p : Property) : pathFrom root ⟨root, p⟩ = .ok p.ownPath :=
  if_pos (Text.sameIgnoringAsciiCase_refl root.name)

theorem pathsFrom_self (root : Entity) (p : Property) :
    pathsFrom root ⟨root, p⟩ = .ok (.ofPath p.ownPath) := by
  rw [pathsFrom, pathFrom_self]
  rfl

/-- **The path to a property behind a bridge** leads over that bridge, if there is one. -/
theorem pathFrom_of_reached (hc : c.metadata.Consistent) (hroot : root ∈ c.entities)
    (hb : b ∈ root.bridges) (h : c.reached? b = some e) (hne : e ≠ root) (p : Property) :
    pathFrom root ⟨e, p⟩ =
      if b.spells e then .ok (b.ownPath ++ "." ++ p.ownPath)
      else .error (.fieldNotFound p.name root.name) := by
  have hnamed : ¬ e.isNamed root.name = true := fun hn =>
    hne (eq_of_isNamed hc ((reached?_eq_some_iff hc).mp h).1 hroot hn)
  rw [pathFrom, if_neg hnamed, bridgeTo?_of_reached hc hroot hb h]
  by_cases hspells : b.spells e = true
  · rw [if_pos hspells, if_pos hspells]
  · rw [if_neg hspells, if_neg hspells]

/-! ### Finding -/

theorem mem_bridged_iff : e ∈ c.bridged root ↔ ∃ b ∈ root.bridges, c.reached? b = some e :=
  List.mem_filterMap

/-- The name is found behind the bridge `b`, as the property `x`, and behind no bridge before it. -/
structure FirstReached (c : Catalog) (root : Entity) (name : String) (b : Property)
    (x : OwnedProperty) : Prop where
  reached : c.reached? b = some x.owner
  mem : x.property ∈ x.owner.properties
  named : Text.sameIgnoringAsciiCase x.property.name name = true
  first : ∃ before after, root.bridges = before ++ b :: after ∧
    ∀ b' ∈ before, ∀ e, c.reached? b' = some e → e.Lacks name

variable {x : OwnedProperty}

theorem FirstReached.mem_bridges (h : c.FirstReached root name b x) : b ∈ root.bridges := by
  obtain ⟨before, after, hsplit, -⟩ := h.first
  rw [hsplit]
  exact List.mem_append_right before List.mem_cons_self

/-- What is found behind a bridge is not the root, which would have been asked first. -/
theorem FirstReached.owner_ne (hlacks : root.Lacks name) (h : c.FirstReached root name b x) :
    x.owner ≠ root := by
  intro howner
  have hmem := h.mem
  rw [howner] at hmem
  exact Bool.false_ne_true ((hlacks x.property hmem).symm.trans h.named)

theorem FirstReached.property?_eq (hc : c.metadata.Consistent) (h : c.FirstReached root name b x) :
    x.owner.property? name = some x.property :=
  (property?_eq_some_iff hc ((reached?_eq_some_iff hc).mp h.reached).1).mpr ⟨h.mem, h.named⟩

theorem find?_of_firstReached (hc : c.metadata.Consistent) (hlacks : root.Lacks name)
    (h : c.FirstReached root name b x) : c.find? root name = some x := by
  obtain ⟨before, after, hsplit, hbefore⟩ := h.first
  have hbridged :
      c.bridged root = before.filterMap c.reached? ++ x.owner :: after.filterMap c.reached? := by
    rw [← List.filterMap_cons_some h.reached, ← List.filterMap_append, ← hsplit]
    rfl
  have hnone : (before.filterMap c.reached?).findSome?
      (fun child => (child.property? name).map (OwnedProperty.mk child)) = none := by
    refine List.findSome?_eq_none_iff.mpr fun e he => ?_
    obtain ⟨b', hb', he⟩ := List.mem_filterMap.mp he
    rw [Entity.property?_eq_none_iff.mpr (hbefore b' hb' e he)]
    rfl
  rw [find?, Entity.property?_eq_none_iff.mpr hlacks, hbridged]
  dsimp only
  rw [List.findSome?_append, hnone, Option.none_or, List.findSome?_cons, h.property?_eq hc]
  rfl

theorem find?_eq_none (hlacks : root.Lacks name)
    (h : ∀ b ∈ root.bridges, ∀ e, c.reached? b = some e → e.Lacks name) :
    c.find? root name = none := by
  rw [find?, Entity.property?_eq_none_iff.mpr hlacks]
  refine List.findSome?_eq_none_iff.mpr fun e he => ?_
  obtain ⟨b, hb, hreached⟩ := mem_bridged_iff.mp he
  rw [Entity.property?_eq_none_iff.mpr (h b hb e hreached)]
  rfl

/-! ### Targets -/

theorem resolve_of_find? (h : c.find? root name = some x) :
    c.resolve root name = .ok (.property x) := by
  rw [resolve, h]

theorem target_of_find? (h : c.find? root name = some x) :
    c.target root name = do return ⟨← pathsFrom root x, some x.property.type⟩ := by
  rw [target, resolve_of_find? h]
  rfl

theorem target_of_find?_eq_none (h : c.find? root name = none) :
    c.target root name =
      if '.' ∈ name.toList then .ok ⟨.ofPath name, none⟩
      else .error (.fieldNotFound name root.name) := by
  rw [target, resolve, h]
  by_cases hdot : '.' ∈ name.toList
  · simp only [if_pos hdot]
    rfl
  · simp only [if_neg hdot]
    rfl

/-! ### Free text -/

theorem mem_textProperties_iff {s : Scope} :
    x ∈ s.textProperties root ↔
      (x.owner = root ∨ x.owner ∈ s.catalog.bridged root) ∧
        x.property ∈ x.owner.properties ∧ x.property.type = .string := by
  obtain ⟨owner, p⟩ := x
  simp only [Scope.textProperties, List.mem_flatMap, List.mem_cons, List.mem_map, List.mem_filter,
    beq_iff_eq, OwnedProperty.mk.injEq]
  constructor
  · rintro ⟨e, he, q, hq, rfl, rfl⟩
    exact ⟨he, hq⟩
  · rintro ⟨he, hp⟩
    exact ⟨owner, he, p, hp, rfl, rfl⟩

/-- Free text has paths exactly if the bridges to entities with texts are spelled as these
entities spell their names. -/
theorem exists_textPaths_iff {s : Scope} (hc : s.catalog.metadata.Consistent)
    (hroot : root ∈ s.catalog.entities) (hs : s.root = .ok root) :
    (∃ paths, s.textPaths = .ok paths) ↔
      ∀ b ∈ root.bridges, ∀ e, s.catalog.reached? b = some e → e ≠ root →
        (∃ p ∈ e.properties, p.type = .string) → b.spells e = true := by
  have hpaths : (∃ paths, s.textPaths = .ok paths) ↔
      ∀ x ∈ s.textProperties root, ∃ path, pathFrom root x = .ok path := by
    simp only [Scope.textPaths, hs, bind_eq_ok_iff, pure_eq_ok_iff, Except.ok.injEq,
      exists_eq_left', exists_comm (α := List String), exists_and_left, exists_eq', and_true,
      exists_mapM_eq_ok_iff, pathsFrom, map_eq_ok_iff, exists_comm (α := PathPair)]
  rw [hpaths]
  constructor
  · rintro h b hb e hreached hne ⟨p, hp, htype⟩
    obtain ⟨path, hpath⟩ := h ⟨e, p⟩
      (mem_textProperties_iff.mpr ⟨.inr (mem_bridged_iff.mpr ⟨b, hb, hreached⟩), hp, htype⟩)
    rw [pathFrom_of_reached hc hroot hb hreached hne] at hpath
    by_contra hspells
    rw [if_neg hspells] at hpath
    cases hpath
  · rintro h ⟨e, p⟩ hx
    obtain ⟨howner, hp, htype⟩ := mem_textProperties_iff.mp hx
    by_cases hne : e = root
    · exact ⟨p.ownPath, hne ▸ pathFrom_self e p⟩
    · obtain ⟨b, hb, hreached⟩ := mem_bridged_iff.mp (howner.resolve_left hne)
      have hspells := h b hb e hreached hne ⟨p, hp, htype⟩
      exact ⟨_, (pathFrom_of_reached hc hroot hb hreached hne p).trans (if_pos hspells)⟩

end Catalog

/-! ### Where the values of a name lie -/

variable {c : Catalog} {root : Entity}

/-- **Where the values of a name lie.** In a catalog that was checked a name stands for the root's
own property of that name; if there is none, for the one behind the first bridge that has one
behind it; and if there is none at all, for itself as a path, which it can only be with a dot in it.
Own properties have their own path. A property behind a bridge has the path over the bridge if the
bridge spells the name of its entity as the entity does, up to ASCII case, and no path otherwise;
and that is also when free text has paths to look at. -/
theorem target_of_build (hc : c.Obtained) (hroot : root ∈ c.entities) (name : String) :
    (∀ p ∈ root.properties, Text.sameIgnoringAsciiCase p.name name = true →
      c.target root name = .ok ⟨.ofPath p.ownPath, some p.type⟩) ∧
    (root.Lacks name →
      (∀ b x, c.FirstReached root name b x →
        c.target root name =
          if b.spells x.owner then
            .ok ⟨.ofPath (b.ownPath ++ "." ++ x.property.ownPath), some x.property.type⟩
          else .error (.fieldNotFound x.property.name root.name)) ∧
      ((∀ b ∈ root.bridges, ∀ e, c.reached? b = some e → e.Lacks name) →
        c.target root name =
          if '.' ∈ name.toList then .ok ⟨.ofPath name, none⟩
          else .error (.fieldNotFound name root.name))) ∧
    ∀ s : Scope, s.catalog = c → s.root = .ok root →
      ((∃ paths, s.textPaths = .ok paths) ↔
        ∀ b ∈ root.bridges, ∀ e, c.reached? b = some e → e ≠ root →
          (∃ p ∈ e.properties, p.type = .string) → b.spells e = true) := by
  have hconsistent := hc.consistent
  refine ⟨fun p hp hname => ?_, fun hlacks => ⟨fun b x hfirst => ?_, fun hnone => ?_⟩, ?_⟩
  · have hfound : root.property? name = some p :=
      (Catalog.property?_eq_some_iff hconsistent hroot).mpr ⟨hp, hname⟩
    have hfind : c.find? root name = some ⟨root, p⟩ := by rw [Catalog.find?, hfound]
    rw [Catalog.target_of_find? hfind, Catalog.pathsFrom_self]
    rfl
  · rw [Catalog.target_of_find? (Catalog.find?_of_firstReached hconsistent hlacks hfirst),
      Catalog.pathsFrom, Catalog.pathFrom_of_reached hconsistent hroot hfirst.mem_bridges
        hfirst.reached (hfirst.owner_ne hlacks)]
    split
    · rfl
    · rfl
  · exact Catalog.target_of_find?_eq_none (Catalog.find?_eq_none hlacks hnone)
  · rintro s rfl hs
    exact Catalog.exists_textPaths_iff hconsistent hroot hs

/-- Seen from projects, a name that none of their properties has leads to tasks. -/
theorem target_owner_eq_tasks_owner :
    let project := projectEntity [.field 2 "title" .string, .bridge 3 "tasks" "TASK"]
    let c := projectCatalog project.properties
    Catalog.build (projectMetadata project.properties) = .ok c ∧ project ∈ c.entities ∧
      c.target project "Owner" = .ok ⟨.ofPath "tasks.owner", some .string⟩ ∧
      ∃ paths, Scope.textPaths ⟨c, "Project", 1⟩ = .ok paths := by
  intro project c
  have hcheck : Catalog.check (projectMetadata project.properties) = .ok () := by decide +kernel
  have hbuild : Catalog.build (projectMetadata project.properties) = .ok c :=
    build_projectMetadata project.properties hcheck
  have hmem : project ∈ c.entities := projectEntity_mem project.properties
  obtain ⟨-, hother, htext⟩ := target_of_build (.built hbuild) hmem "Owner"
  have htexts := (htext ⟨c, "Project", 1⟩ rfl (root_project hcheck)).mpr (by decide +kernel)
  refine ⟨hbuild, hmem, ?_, htexts⟩
  have hlacks : project.Lacks "Owner" := by decide +kernel
  have hfirst : c.FirstReached project "Owner" (.bridge 3 "tasks" "TASK")
      ⟨taskEntity, .field 1 "owner" .string⟩ :=
    ⟨by decide +kernel, by decide, by decide, [], [], by decide, nofun⟩
  exact ((hother hlacks).1 _ _ hfirst).trans (if_pos (by decide +kernel))

/-- **A bridge without a path.** The Kelvin sign lowers to `k`, so that the bridge leads to tasks
and the name of their property is found; but the bridge is not found again when the path is built,
and with it free text has no paths either. -/
theorem target_kelvinSign_eq_fieldNotFound :
    let project := projectEntity [.bridge 3 "tasks" "Tas\u212A"]
    let c := projectCatalog project.properties
    Catalog.build (projectMetadata project.properties) = .ok c ∧ project ∈ c.entities ∧
      c.resolve project "owner" = .ok (.property ⟨taskEntity, .field 1 "owner" .string⟩) ∧
      c.target project "owner" = .error (.fieldNotFound "owner" "Project") ∧
      Scope.textPaths ⟨c, "Project", 1⟩ = .error (.fieldNotFound "owner" "Project") := by
  intro project c
  have hcheck : Catalog.check (projectMetadata project.properties) = .ok () := by decide +kernel
  have hbuild : Catalog.build (projectMetadata project.properties) = .ok c :=
    build_projectMetadata project.properties hcheck
  have hmem : project ∈ c.entities := projectEntity_mem project.properties
  have hfind : c.find? project "owner" = some ⟨taskEntity, .field 1 "owner" .string⟩ := by
    decide +kernel
  have hpath : Catalog.pathsFrom project ⟨taskEntity, .field 1 "owner" .string⟩ =
      .error (.fieldNotFound "owner" "Project") := by
    rw [Catalog.pathsFrom, Catalog.pathFrom_of_reached (b := .bridge 3 "tasks" "Tas\u212A")
      (Catalog.consistent_of_build hbuild) hmem (by decide) (by decide +kernel) (by decide),
      if_neg (by decide +kernel)]
    rfl
  refine ⟨hbuild, hmem, Catalog.resolve_of_find? hfind, ?_, ?_⟩
  · rw [Catalog.target_of_find? hfind, hpath]
    rfl
  · have hroot : Scope.root ⟨c, "Project", 1⟩ = .ok project := root_project hcheck
    have htexts : Scope.textProperties ⟨c, "Project", 1⟩ project =
        [⟨taskEntity, .field 1 "owner" .string⟩] := by
      decide +kernel
    simp only [Scope.textPaths, hroot, htexts, List.mapM_cons, hpath, bind, Except.bind]

end GuardedSearch
