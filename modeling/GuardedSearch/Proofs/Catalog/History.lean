import GuardedSearch.Catalog.Store
import GuardedSearch.Proofs.Catalog.Consistency
import GuardedSearch.Proofs.Policy.Asked

/-!
# The history of a store

A store is used from the catalog of its first source on: catalogs are published, sources reloaded,
and the catalog in force is taken out, one operation after the other. What an operation publishes
does not depend on the store, so that the store is described by the list of what was published. It
has as many generations, and the last of them is in force.

Checks are made when a catalog is built, and never afterwards. That what is in force is consistent,
and that every policy can be read off it, holds because there is no other way to come by a catalog.

## Main definitions

* `StoreOperation`, `StoreSession` — operations on a store, and what they come to
* `StoreOperation.published?` — the metadata that an operation puts into force

## Main results

* `StoreSession.store_of_run` — the store after any operations
* `StoreSession.loaded_run_load` — what was taken out stays as it was
* `StoreSession.history_of_store` — both together, for a store that begins with a source
-/

namespace GuardedSearch

namespace Catalog

/-- Consistent catalogs have a policy for every name, also for those that name no entity. -/
theorem exists_policy_of_consistent {c : Catalog} (h : c.metadata.Consistent) (name : String) :
    ∃ policy, c.policy name = .ok policy :=
  ⟨_, (obtained_of_consistent h).policy_eq name⟩

end Catalog

/-- The catalog of a source has the metadata of the two readings, which must be consistent. -/
theorem MetadataReadings.catalog_eq_ok_iff {source : MetadataReadings} {c : Catalog} :
    source.catalog = .ok c ↔
      source.entities = .ok c.entities ∧ source.rules = .ok c.rules ∧
        c.metadata.Consistent ∧ c.generation = 0 := by
  simp only [catalog, bind_eq_ok_iff, Catalog.build_eq_ok_iff, Catalog.check_eq_ok_iff_consistent]
  constructor
  · rintro ⟨entities, hentities, rules, hrules, hconsistent, rfl⟩
    exact ⟨hentities, hrules, hconsistent, rfl⟩
  · rintro ⟨hentities, hrules, hconsistent, hgeneration⟩
    refine ⟨c.entities, hentities, c.rules, hrules, hconsistent, ?_⟩
    rw [← hgeneration]

/-! ### Operations -/

/-- What can be done with a store. -/
inductive StoreOperation where
  | publish (c : Catalog)
  | reload (source : MetadataReadings)
  | load

namespace StoreOperation

/-- Only what can be come by is published. Reloading may be tried with any source. -/
def Allowed : StoreOperation → Prop
  | publish c => c.Obtained
  | reload _ | load => True

/-- The metadata that the operation puts into force, if it succeeds in that. -/
def published? : StoreOperation → Option Metadata
  | publish c => some c.metadata
  | reload source => source.catalog.toOption.map Catalog.metadata
  | load => none

/-- Reloading succeeds with the entities of one reading and the rules of the other, if both succeed
and fit together. -/
theorem published?_reload_eq_some_iff {source : MetadataReadings} {m : Metadata} :
    (reload source).published? = some m ↔
      source.entities = .ok m.entities ∧ source.rules = .ok m.rules ∧ m.Consistent := by
  rw [published?, Option.map_eq_some_iff]
  constructor
  · rintro ⟨c, hc, rfl⟩
    cases hcatalog : source.catalog with
    | error e =>
      rw [hcatalog] at hc
      cases hc
    | ok d =>
      rw [hcatalog] at hc
      cases hc
      obtain ⟨hentities, hrules, hconsistent, -⟩ := MetadataReadings.catalog_eq_ok_iff.mp hcatalog
      exact ⟨hentities, hrules, hconsistent⟩
  · rintro ⟨hentities, hrules, hconsistent⟩
    have hcatalog : source.catalog = .ok ⟨m.entities, m.rules, 0⟩ :=
      MetadataReadings.catalog_eq_ok_iff.mpr ⟨hentities, hrules, hconsistent, rfl⟩
    exact ⟨_, by rw [hcatalog]; rfl, rfl⟩

theorem Allowed.consistent {op : StoreOperation} (h : op.Allowed) {m : Metadata}
    (hm : op.published? = some m) : m.Consistent := by
  cases op with
  | publish c =>
    cases hm
    exact Catalog.Obtained.consistent h
  | reload source => exact (published?_reload_eq_some_iff.mp hm).2.2
  | load => cases hm

end StoreOperation

/-! ### Sessions -/

/-- A store, and the catalogs that were taken out of it, in their order. -/
structure StoreSession where
  store : CatalogStore
  loaded : List Catalog

namespace StoreSession

/-- The session after one operation. If reloading fails, that is all it does. -/
def step (s : StoreSession) : StoreOperation → StoreSession
  | .publish c => { s with store := s.store.publish c }
  | .reload source =>
    match s.store.reload source with
    | .ok store => { s with store }
    | .error _ => s
  | .load => { s with loaded := s.loaded ++ [s.store.current] }

/-- The session after some operations. -/
def run (s : StoreSession) (ops : List StoreOperation) : StoreSession :=
  ops.foldl step s

/-! ### One operation -/

theorem store_step_of_none {s : StoreSession} {op : StoreOperation} (h : op.published? = none) :
    (s.step op).store = s.store := by
  cases op with
  | publish c => cases h
  | reload source =>
    rw [step, CatalogStore.reload]
    cases hcatalog : source.catalog with
    | ok c => simp [StoreOperation.published?, hcatalog, Except.toOption] at h
    | error e => rfl
  | load => rfl

theorem current_step_of_some {s : StoreSession} {op : StoreOperation} {m : Metadata}
    (h : op.published? = some m) :
    (s.step op).store.current = ⟨m.entities, m.rules, s.store.generation + 1⟩ := by
  cases op with
  | publish c =>
    cases h
    rfl
  | reload source =>
    rw [step, CatalogStore.reload]
    cases hcatalog : source.catalog with
    | ok c =>
      simp only [StoreOperation.published?, hcatalog] at h
      cases h
      rfl
    | error e =>
      simp only [StoreOperation.published?, hcatalog] at h
      cases h
  | load => cases h

/-- Nothing that was taken out is taken back or changed. -/
theorem loaded_step (s : StoreSession) (op : StoreOperation) :
    ∃ more, (s.step op).loaded = s.loaded ++ more := by
  cases op with
  | publish c => exact ⟨[], (List.append_nil _).symm⟩
  | reload source =>
    rw [step]
    cases s.store.reload source with
    | ok store => exact ⟨[], (List.append_nil _).symm⟩
    | error e => exact ⟨[], (List.append_nil _).symm⟩
  | load => exact ⟨[s.store.current], rfl⟩

/-! ### Any number of operations -/

/-- **The store is what was published last**, and has counted what was published. -/
theorem store_of_run (s : StoreSession) (ops : List StoreOperation) :
    (s.run ops).store.generation =
        s.store.generation + (ops.filterMap StoreOperation.published?).length ∧
      (s.run ops).store.current.metadata =
        (ops.filterMap StoreOperation.published?).getLastD s.store.current.metadata := by
  induction ops generalizing s with
  | nil => exact ⟨rfl, rfl⟩
  | cons op ops ih =>
    obtain ⟨hgeneration, hmetadata⟩ := ih (s.step op)
    cases hop : op.published? with
    | none =>
      rw [store_step_of_none hop] at hgeneration hmetadata
      rw [List.filterMap_cons_none hop]
      exact ⟨hgeneration, hmetadata⟩
    | some m =>
      have hcurrent := current_step_of_some (s := s) hop
      rw [List.filterMap_cons_some hop, List.getLastD_cons, List.length_cons]
      refine ⟨hgeneration.trans ?_, ?_⟩
      · rw [CatalogStore.generation, hcurrent, Nat.add_assoc, Nat.add_comm 1]
      · rw [hcurrent] at hmetadata
        exact hmetadata

/-- **What is taken out stays as it was**, whatever is done later. -/
theorem loaded_run_load (s : StoreSession) (later : List StoreOperation) :
    ((s.step .load).run later).loaded[s.loaded.length]? = some s.store.current := by
  -- The list of what was taken out grows at its end only.
  have hprefix : ∀ (t : StoreSession) (ops : List StoreOperation),
      ∃ more, (t.run ops).loaded = t.loaded ++ more := by
    intro t ops
    induction ops generalizing t with
    | nil => exact ⟨[], (List.append_nil _).symm⟩
    | cons op ops ih =>
      obtain ⟨later, hlater⟩ := ih (t.step op)
      obtain ⟨now, hnow⟩ := t.loaded_step op
      exact ⟨now ++ later, by rw [← List.append_assoc, ← hnow, ← hlater]; rfl⟩
  obtain ⟨more, hmore⟩ := hprefix (s.step .load) later
  rw [hmore, step, List.append_assoc, List.getElem?_append_right (Nat.le_refl _), Nat.sub_self]
  rfl

/-- What was published is consistent, and so is what is in force. -/
theorem consistent_of_run {s : StoreSession} (h : s.store.current.metadata.Consistent)
    {ops : List StoreOperation} (hops : ∀ op ∈ ops, op.Allowed) :
    (s.run ops).store.current.metadata.Consistent := by
  have hpublished : ∀ m ∈ s.store.current.metadata :: ops.filterMap StoreOperation.published?,
      m.Consistent := by
    refine List.forall_mem_cons.mpr ⟨h, fun m hm => ?_⟩
    obtain ⟨op, hop, hm⟩ := List.mem_filterMap.mp hm
    exact (hops op hop).consistent hm
  rw [(s.store_of_run ops).2]
  exact hpublished _ List.getLastD_mem_cons

/-- What a source publishes is what reloading it makes of the store. -/
theorem reload_eq_ok_iff {s : CatalogStore} {source : MetadataReadings} {store : CatalogStore} :
    s.reload source = .ok store ↔
      ∃ m, (StoreOperation.reload source).published? = some m ∧
        store = ⟨⟨m.entities, m.rules, s.generation + 1⟩⟩ := by
  rw [CatalogStore.reload, StoreOperation.published?]
  cases source.catalog with
  | error e => simp [Except.toOption]
  | ok c => simp [Except.toOption, CatalogStore.publish, CatalogStore.put, Catalog.withGeneration,
      CatalogStore.nextGeneration, Catalog.metadata, eq_comm]

/-- **The history of a store.** Whatever is done with a store that began with a source: what is in
force is consistent and has a policy for every name; its generation is one more than the number of
publications, and its entities and rules are those of the last one, or those of the first source;
reloading succeeds if both readings of a source succeed and fit together, and does nothing at all
otherwise; and what is taken out now is the same after any operations. -/
theorem history_of_store {source : MetadataReadings} {store : CatalogStore}
    (h : CatalogStore.ofSource source = .ok store) {ops : List StoreOperation}
    (hops : ∀ op ∈ ops, op.Allowed) :
    let s := run ⟨store, []⟩ ops
    let published := ops.filterMap StoreOperation.published?
    s.store.current.metadata.Consistent ∧
      (∀ name, ∃ policy, s.store.current.policy name = .ok policy) ∧
      s.store.generation = 1 + published.length ∧
      (∃ first : Metadata, source.entities = .ok first.entities ∧ source.rules = .ok first.rules ∧
        s.store.current.metadata = published.getLastD first) ∧
      (∀ other : MetadataReadings,
        (∀ m : Metadata, (StoreOperation.reload other).published? = some m ↔
          other.entities = .ok m.entities ∧ other.rules = .ok m.rules ∧ m.Consistent) ∧
        ((∃ store, s.store.reload other = .ok store) ↔
          ∃ m, (StoreOperation.reload other).published? = some m) ∧
        ∀ e, s.store.reload other = .error e → s.step (.reload other) = s) ∧
      ∀ later, ((s.step .load).run later).loaded[s.loaded.length]? = some s.store.current := by
  intro s published
  obtain ⟨c, hc, rfl⟩ := map_eq_ok_iff.mp h
  obtain ⟨hentities, hrules, hconsistent, -⟩ := MetadataReadings.catalog_eq_ok_iff.mp hc
  have hcurrent : s.store.current.metadata.Consistent := consistent_of_run hconsistent hops
  obtain ⟨hgeneration, hmetadata⟩ := store_of_run ⟨.new c, []⟩ ops
  refine ⟨hcurrent, Catalog.exists_policy_of_consistent hcurrent, hgeneration,
    ⟨c.metadata, hentities, hrules, hmetadata⟩,
    fun other => ⟨fun m => StoreOperation.published?_reload_eq_some_iff, ?_, fun e he => ?_⟩,
    loaded_run_load s⟩
  · simp only [reload_eq_ok_iff]
    constructor
    · rintro ⟨-, m, hm, -⟩
      exact ⟨m, hm⟩
    · rintro ⟨m, hm⟩
      exact ⟨_, m, hm, rfl⟩
  · rw [step, he]

/-- Of three attempts to replace the catalog of tasks, the second fails, since its rule is aimed at
no entity. The third brings the tasks back, as the third generation. -/
theorem history_of_tasks :
    let source := MetadataReadings.ofMetadata taskMetadata
    let ops : List StoreOperation := [.publish .empty,
      .reload ⟨.ok [], .ok taskMetadata.rules⟩, .reload source]
    CatalogStore.ofSource source = .ok (.new taskCatalog) ∧ (∀ op ∈ ops, op.Allowed) ∧
      (run ⟨.new taskCatalog, []⟩ ops).store.generation = 3 ∧
      (run ⟨.new taskCatalog, []⟩ ops).store.current.metadata = taskMetadata := by
  intro source ops
  have hsource : CatalogStore.ofSource source = .ok (.new taskCatalog) := rfl
  have hops : ∀ op ∈ ops, op.Allowed := by
    simp only [ops, List.forall_mem_cons]
    exact ⟨.empty, trivial, trivial, List.forall_mem_nil _⟩
  have hpublished : ops.filterMap StoreOperation.published? = [⟨[], []⟩, taskMetadata] := rfl
  obtain ⟨-, -, hgeneration, ⟨first, -, -, hmetadata⟩, -⟩ := history_of_store hsource hops
  rw [hpublished] at hgeneration hmetadata
  exact ⟨hsource, hops, hgeneration, hmetadata⟩

end StoreSession

end GuardedSearch
