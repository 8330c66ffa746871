import GuardedSearch.Proofs.Catalog.Resolution

/-!
# What a name stands for

The search for a name goes from the root through its bridges and ends at the first property that
fits. What it ends at can be described without the search, and is one property at most: the root's
own property hides all others of its name, and what is behind a bridge hides what is behind later
ones. Rules name a property otherwise, by its owner and its own name.

## Main definitions

* `Catalog.StandsFor` — the property that a name stands for, seen from a root

## Main results

* `Catalog.find?_eq_some_iff_standsFor` — the search for a name ends at what it stands for
* `Catalog.target_eq_ok_iff` — where the values of a name are
* `Catalog.Obtained.exists_property` — the property that a condition of a rule names
-/

namespace GuardedSearch

namespace Catalog

variable {c : Catalog} {root : Entity} {name : String} {x : OwnedProperty}

/-! ### Names -/

/-- The property that a name stands for, seen from a root: one of its own, or if it has none of that
name, the one behind the first bridge that has one behind it. -/
inductive StandsFor (c : Catalog) (root : Entity) (name : String) : OwnedProperty → Prop
  | own {p : Property} (mem : p ∈ root.properties)
      (named : Text.sameIgnoringAsciiCase p.name name = true) : StandsFor c root name ⟨root, p⟩
  | behind {b : Property} {x : OwnedProperty} (lacks : root.Lacks name)
      (first : c.FirstReached root name b x) : StandsFor c root name x

/-- If the search ends behind a bridge, there is nothing of the name behind those before it. -/
theorem exists_firstReached_of_findSome? (hc : c.metadata.Consistent)
    (h : (c.bridged root).findSome?
      (fun child => (child.property? name).map (OwnedProperty.mk child)) = some x) :
    ∃ b, c.FirstReached root name b x := by
  obtain ⟨passed, owner, rest, hbridged, howner, hpassed⟩ := List.findSome?_eq_some_iff.mp h
  obtain ⟨p, hp, rfl⟩ := Option.map_eq_some_iff.mp howner
  obtain ⟨before, others, hsplit, hbefore, hothers⟩ := List.filterMap_eq_append_iff.mp hbridged
  obtain ⟨dangling, b, after, rfl, hdangling, hreached, -⟩ :=
    List.filterMap_eq_cons_iff.mp hothers
  have howner : owner ∈ c.entities := ((reached?_eq_some_iff hc).mp hreached).1
  obtain ⟨hmem, hnamed⟩ := (property?_eq_some_iff hc howner).mp hp
  refine ⟨b, hreached, hmem, hnamed, before ++ dangling, after, by simpa using hsplit, ?_⟩
  -- a bridge that leads nowhere would be passed as well, with nothing behind it
  intro b' hb' e he
  rcases List.mem_append.mp hb' with hb' | hb'
  · have hpassed := hpassed e (hbefore ▸ List.mem_filterMap.mpr ⟨b', hb', he⟩)
    exact Entity.property?_eq_none_iff.mp (Option.map_eq_none_iff.mp hpassed)
  · exact absurd ((hdangling b' hb').symm.trans he) nofun

/-- **The search for a name ends at what the name stands for.** -/
theorem find?_eq_some_iff_standsFor (hc : c.metadata.Consistent) (hroot : root ∈ c.entities) :
    c.find? root name = some x ↔ c.StandsFor root name x := by
  constructor
  · intro h
    rw [find?] at h
    cases hp : root.property? name with
    | some p =>
      rw [hp] at h
      cases h
      obtain ⟨hmem, hnamed⟩ := (property?_eq_some_iff hc hroot).mp hp
      exact .own hmem hnamed
    | none =>
      rw [hp] at h
      obtain ⟨b, hfirst⟩ := exists_firstReached_of_findSome? hc h
      exact .behind (Entity.property?_eq_none_iff.mp hp) hfirst
  · intro h
    cases h with
    | own hmem hnamed =>
      rw [find?, (property?_eq_some_iff hc hroot).mpr ⟨hmem, hnamed⟩]
    | behind hlacks hfirst => exact find?_of_firstReached hc hlacks hfirst

theorem StandsFor.unique (hc : c.metadata.Consistent) (hroot : root ∈ c.entities)
    {y : OwnedProperty} (hx : c.StandsFor root name x) (hy : c.StandsFor root name y) : x = y := by
  have hfind := (find?_eq_some_iff_standsFor hc hroot).mpr hx
  rw [(find?_eq_some_iff_standsFor hc hroot).mpr hy] at hfind
  exact (Option.some.inj hfind).symm

/-- Values are found where the property lies that the name stands for, or else at the name itself as
a path. -/
theorem target_eq_ok_iff (hc : c.metadata.Consistent) (hroot : root ∈ c.entities) {t : Target} :
    c.target root name = .ok t ↔
      (∃ x paths, c.StandsFor root name x ∧ pathsFrom root x = .ok paths ∧
        t = ⟨paths, some x.property.type⟩) ∨
      ((∀ x, ¬ c.StandsFor root name x) ∧ '.' ∈ name.toList ∧ t = ⟨.ofPath name, none⟩) := by
  simp only [← find?_eq_some_iff_standsFor hc hroot]
  cases hfind : c.find? root name with
  | some x =>
    rw [target_of_find? hfind]
    simp only [bind_pure_comp, map_eq_ok_iff]
    constructor
    · rintro ⟨paths, hpaths, rfl⟩
      exact .inl ⟨x, paths, rfl, hpaths, rfl⟩
    · rintro (⟨y, paths, hy, hpaths, rfl⟩ | ⟨hnone, -⟩)
      · cases hy
        exact ⟨paths, hpaths, rfl⟩
      · exact absurd rfl (hnone x)
  | none =>
    rw [target_of_find?_eq_none hfind]
    by_cases hdot : '.' ∈ name.toList
    · simp [hdot, eq_comm]
    · simp [hdot]

/-! ### Names of rules -/

/-- A condition of a rule names a property by its owner and its own name. -/
theorem Obtained.exists_property (hc : c.Obtained) {r : AccessRule} (hr : r ∈ c.rules)
    {k : RuleCondition} (hk : k ∈ r.conditions) :
    ∃ p : OwnedProperty, c.entity? k.property.entity = some p.owner ∧
      p.owner.property? k.property.property = some p.property := by
  obtain ⟨owner, howner, hsome, -⟩ := hc.checked hr hk
  obtain ⟨p, hp⟩ := Option.isSome_iff_exists.mp hsome
  exact ⟨⟨owner, p⟩, howner, hp⟩

end Catalog

end GuardedSearch
