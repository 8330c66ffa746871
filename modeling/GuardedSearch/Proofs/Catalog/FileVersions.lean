import GuardedSearch.Proofs.Catalog.History
import GuardedSearch.Proofs.Metadata.RoundTrip
import Mathlib.Data.List.Basic
import Mathlib.Logic.Relation

/-!
# Loading from a file that is written to

A file of metadata is read twice for one catalog: once for the entities and once for the rules. Each
time it is read as a whole, and only what was asked for is kept. Nothing notices if the file has
been written to between the two. The catalog that is published then has the entities of one version
of the file and the rules of a later one.

The two are checked against each other, but a check can only tell whether they fit together, not
whether they belong together. Fewer rules always fit. So a rule may be lost although every version
of the file with the entities that it protects has the rule as well.

## Main definitions

* `FileSession`, `FileSession.Step`, `FileSession.Run` — a file, a writer, and any number of loads
* `FileSession.Holds` — the metadata of a version of the file

## Main results

* `FileSession.Invariant.run` — where the two halves of a catalog come from
* `FileSession.one_version_iff` — the contents among which catalogs are always of one version
* `FileSession.mixed_versions_published` — a rule that is lost
-/

namespace GuardedSearch

/-- A load that has read the entities, and not the rules yet. -/
structure EntitiesRead where
  /-- The version of the file that was read. -/
  version : Nat
  entities : List Entity
  deriving DecidableEq

/-- A catalog that was put into force, and the versions of the file that it was read from. -/
structure Publication where
  entitiesFrom : Nat
  rulesFrom : Nat
  catalog : Catalog

/-- What a load is for: a new store, or the next catalog of the store that there is. -/
inductive LoadUse where
  | newStore
  | reload

/-- The store after a load. -/
def LoadUse.store (use : LoadUse) (store : CatalogStore) (source : MetadataReadings) :
    Except SearchError CatalogStore :=
  match use with
  | newStore => CatalogStore.ofSource source
  | reload => store.reload source

/-- A file of metadata that is written to, and a store that is loaded from it. -/
structure FileSession where
  /-- What the file held before, in that order. -/
  earlier : List (Option String)
  content : Option String
  underWay : List EntitiesRead
  store : CatalogStore
  published : List Publication

namespace FileSession

/-- All versions of the file, of which the last is there now. -/
def versions (s : FileSession) : List (Option String) :=
  s.earlier ++ [s.content]

/-- A version of the file is a document with this metadata. -/
def Holds (s : FileSession) (version : Nat) (m : Metadata) : Prop :=
  ∃ content, s.versions[version]? = some content ∧ Metadata.load content = .ok m

/-- A file and a store before anything is done. -/
def start (content : Option String) (store : CatalogStore) : FileSession :=
  ⟨[], content, [], store, []⟩

/-- The second half of a load: the rules are read, and the catalog is built. -/
def finished (s : FileSession) (use : LoadUse) (r : EntitiesRead) :
    Except SearchError CatalogStore :=
  use.store s.store ⟨.ok r.entities, Metadata.rules <$> Metadata.load s.content⟩

/-- The file is written to, or read by a load that begins or by one that is under way. A load that
does not succeed in reading entities changes nothing. -/
inductive Step (writes : Option String → Prop) : FileSession → FileSession → Prop
  | write (s : FileSession) (content : Option String) (allowed : writes content) :
      Step writes s { s with earlier := s.versions, content }
  | readEntities (s : FileSession) (m : Metadata) (load : Metadata.load s.content = .ok m) :
      Step writes s { s with underWay := ⟨s.earlier.length, m.entities⟩ :: s.underWay }
  | finish (s : FileSession) (use : LoadUse) (r : EntitiesRead) (underWay : r ∈ s.underWay)
      (store : CatalogStore) (success : s.finished use r = .ok store) :
      Step writes s { s with
        underWay := s.underWay.erase r
        store
        published := ⟨r.version, s.earlier.length, store.current⟩ :: s.published }
  | fail (s : FileSession) (use : LoadUse) (r : EntitiesRead) (underWay : r ∈ s.underWay)
      (e : SearchError) (failure : s.finished use r = .error e) :
      Step writes s { s with underWay := s.underWay.erase r }

/-- Any number of steps, in any order. -/
abbrev Run (writes : Option String → Prop) : FileSession → FileSession → Prop :=
  Relation.ReflTransGen (Step writes)

variable {writes : Option String → Prop} {s s' : FileSession} {m : Metadata} {version : Nat}

/-! ### Versions -/

theorem Holds.le (h : s.Holds version m) : version ≤ s.earlier.length := by
  obtain ⟨content, hversion, -⟩ := h
  have hlt := (List.getElem?_eq_some_iff.mp hversion).1
  rw [versions, List.length_append, List.length_singleton] at hlt
  exact Nat.le_of_lt_succ hlt

theorem Holds.unique {m' : Metadata} (h : s.Holds version m) (h' : s.Holds version m') :
    m = m' := by
  obtain ⟨content, hversion, hload⟩ := h
  obtain ⟨content', hversion', hload'⟩ := h'
  obtain rfl := Option.some.inj (hversion.symm.trans hversion')
  exact Except.ok.inj (hload.symm.trans hload')

theorem holds_now (h : Metadata.load s.content = .ok m) : s.Holds s.earlier.length m :=
  ⟨s.content, by rw [versions, List.getElem?_concat_length], h⟩

/-- No version is forgotten or changed. -/
theorem Step.versions_prefix (h : Step writes s s') : s.versions <+: s'.versions := by
  cases h with
  | write content => exact List.prefix_append s.versions [content]
  | readEntities | finish | fail => exact List.prefix_refl s.versions

theorem Holds.step (h : s.Holds version m) (hstep : Step writes s s') : s'.Holds version m := by
  obtain ⟨content, hversion, hload⟩ := h
  obtain ⟨later, hlater⟩ := hstep.versions_prefix
  have hlt := (List.getElem?_eq_some_iff.mp hversion).1
  exact ⟨content, by rw [← hlater, List.getElem?_append_left hlt, hversion], hload⟩

/-! ### The invariant -/

/-- The metadata of a publication is put together from two versions of the file, of which that with
the rules is not the older one. -/
structure Publication.IsRead (s : FileSession) (p : Publication) : Prop where
  le : p.entitiesFrom ≤ p.rulesFrom
  consistent : p.catalog.metadata.Consistent
  versions : ∃ m₁ m₂, s.Holds p.entitiesFrom m₁ ∧ s.Holds p.rulesFrom m₂ ∧
    p.catalog.metadata = ⟨m₁.entities, m₂.rules⟩

/-- What holds after every step: the writer has written what it may write, and what has been read
stands in the file, or has stood there. -/
structure Invariant (writes : Option String → Prop) (s : FileSession) : Prop where
  versions : ∀ content ∈ s.versions, writes content
  underWay : ∀ r ∈ s.underWay, ∃ m, s.Holds r.version m ∧ r.entities = m.entities
  published : ∀ p ∈ s.published, Publication.IsRead s p

theorem invariant_start {content : Option String} (h : writes content) (store : CatalogStore) :
    (start content store).Invariant writes where
  versions := List.forall_mem_singleton.mpr h
  underWay := List.forall_mem_nil _
  published := List.forall_mem_nil _

/-- A load that succeeds publishes the entities that it has read before, and the rules that stand in
the file now. -/
theorem finished_eq_ok {use : LoadUse} {r : EntitiesRead} {store : CatalogStore}
    (h : s.finished use r = .ok store) :
    store.current.metadata.Consistent ∧
      ∃ m, Metadata.load s.content = .ok m ∧ store.current.metadata = ⟨r.entities, m.rules⟩ := by
  obtain ⟨c, hc, hstore⟩ : ∃ c, MetadataReadings.catalog
      ⟨.ok r.entities, Metadata.rules <$> Metadata.load s.content⟩ = .ok c ∧
        store.current.metadata = c.metadata := by
    cases use with
    | newStore =>
      obtain ⟨c, hc, rfl⟩ := map_eq_ok_iff.mp h
      exact ⟨c, hc, rfl⟩
    | reload =>
      obtain ⟨c, hc, rfl⟩ := map_eq_ok_iff.mp h
      exact ⟨c, hc, rfl⟩
  obtain ⟨hentities, hrules, hconsistent, -⟩ := MetadataReadings.catalog_eq_ok_iff.mp hc
  obtain ⟨m, hm, hrules⟩ := map_eq_ok_iff.mp hrules
  rw [hstore]
  exact ⟨hconsistent, m, hm, by rw [Catalog.metadata, ← hrules, Except.ok.inj hentities]⟩

theorem Publication.IsRead.step {p : Publication} (h : Publication.IsRead s p)
    (hstep : Step writes s s') : Publication.IsRead s' p := by
  obtain ⟨hle, hconsistent, m₁, m₂, hentities, hrules, hmetadata⟩ := h
  exact ⟨hle, hconsistent, m₁, m₂, hentities.step hstep, hrules.step hstep, hmetadata⟩

theorem Invariant.step (h : s.Invariant writes) (hstep : Step writes s s') :
    s'.Invariant writes := by
  have hunderWay : ∀ r ∈ s.underWay, ∃ m, s'.Holds r.version m ∧ r.entities = m.entities := by
    intro r hr
    obtain ⟨m, hm, hentities⟩ := h.underWay r hr
    exact ⟨m, hm.step hstep, hentities⟩
  have hpublished : ∀ p ∈ s.published, Publication.IsRead s' p :=
    fun p hp => (h.published p hp).step hstep
  cases hstep with
  | write content allowed =>
    refine ⟨?_, hunderWay, hpublished⟩
    exact List.forall_mem_append.mpr ⟨h.versions, List.forall_mem_singleton.mpr allowed⟩
  | readEntities m load =>
    have hnow : ∃ m', s.Holds s.earlier.length m' ∧ m.entities = m'.entities :=
      ⟨m, holds_now load, rfl⟩
    exact ⟨h.versions, List.forall_mem_cons.mpr ⟨hnow, hunderWay⟩, hpublished⟩
  | finish use r hr store success =>
    obtain ⟨m₁, hm₁, hentities⟩ := hunderWay r hr
    obtain ⟨hconsistent, m₂, hload, hmetadata⟩ := finished_eq_ok success
    rw [hentities] at hmetadata
    refine ⟨h.versions, fun r' hr' => hunderWay r' (List.mem_of_mem_erase hr'),
      List.forall_mem_cons.mpr ⟨⟨hm₁.le, hconsistent, m₁, m₂, hm₁, holds_now hload, hmetadata⟩,
        hpublished⟩⟩
  | fail use r =>
    exact ⟨h.versions, fun r' hr' => hunderWay r' (List.mem_of_mem_erase hr'), hpublished⟩

theorem Invariant.run (h : s.Invariant writes) (hrun : Run writes s s') : s'.Invariant writes := by
  induction hrun with
  | refl => exact h
  | tail _ hstep ih => exact ih.step hstep

/-- What a version of the file holds is metadata that the writer may write. -/
theorem Invariant.exists_writes (h : s.Invariant writes) (hm : s.Holds version m) :
    ∃ content, writes content ∧ Metadata.load content = .ok m := by
  obtain ⟨content, hversion, hload⟩ := hm
  exact ⟨content, h.versions content (List.mem_of_getElem? hversion), hload⟩

/-! ### One version -/

variable (writes) in
/-- A load during which the file is written to publishes both versions. -/
theorem exists_run_mixed {first second : Option String} {m₁ m₂ : Metadata} (store : CatalogStore)
    (hfirst : Metadata.load first = .ok m₁) (hsecond : Metadata.load second = .ok m₂)
    (hallowed : writes second) (hconsistent : Metadata.Consistent ⟨m₁.entities, m₂.rules⟩) :
    ∃ s, Run writes (start first store) s ∧ s.versions = [first, second] ∧
      ∃ p ∈ s.published, p.catalog = s.store.current ∧
        p.catalog.metadata = ⟨m₁.entities, m₂.rules⟩ := by
  have hcatalog : MetadataReadings.catalog
      ⟨.ok m₁.entities, Metadata.rules <$> Metadata.load second⟩ =
        .ok ⟨m₁.entities, m₂.rules, 0⟩ :=
    MetadataReadings.catalog_eq_ok_iff.mpr ⟨rfl, by rw [hsecond]; rfl, hconsistent, rfl⟩
  let after := store.publish ⟨m₁.entities, m₂.rules, 0⟩
  have hfinished : finished ⟨[first], second, [⟨0, m₁.entities⟩], store, []⟩ .reload
      ⟨0, m₁.entities⟩ = .ok after := by
    show CatalogStore.publish store <$> MetadataReadings.catalog _ = _
    rw [hcatalog]
    rfl
  have hread : Step writes (start first store) ⟨[], first, [⟨0, m₁.entities⟩], store, []⟩ :=
    .readEntities (start first store) m₁ hfirst
  have hrun := ((Relation.ReflTransGen.single hread).tail (.write _ second hallowed)).tail
    (.finish _ .reload ⟨0, m₁.entities⟩ List.mem_cons_self after hfinished)
  exact ⟨_, hrun, rfl, _, List.mem_cons_self, rfl, rfl⟩

/-- **Where a catalog comes from.** Whatever is written to the file between its readings, a catalog
that is published has the entities of one version of the file and the rules of the same or a later
one, and these fit together. They are of one version if nothing was written between the two
readings. That there is always one version with both is the case exactly if the writer cannot write
entities and then rules that fit them, and change both. -/
theorem one_version_iff (writes : Option String → Prop) :
    (∀ content store s, writes content → Run writes (start content store) s →
      ∀ p ∈ s.published, p.entitiesFrom ≤ p.rulesFrom ∧ p.catalog.metadata.Consistent ∧
        ∃ m₁ m₂, s.Holds p.entitiesFrom m₁ ∧ s.Holds p.rulesFrom m₂ ∧
          p.catalog.metadata = ⟨m₁.entities, m₂.rules⟩ ∧
          (p.entitiesFrom = p.rulesFrom → p.catalog.metadata = m₁)) ∧
    ((∀ content store s, writes content → Run writes (start content store) s →
        ∀ p ∈ s.published, ∃ version, s.Holds version p.catalog.metadata) ↔
      ∀ first second m₁ m₂, writes first → writes second →
        Metadata.load first = .ok m₁ → Metadata.load second = .ok m₂ →
        Metadata.Consistent ⟨m₁.entities, m₂.rules⟩ →
          m₁.entities = m₂.entities ∨ m₁.rules = m₂.rules) := by
  refine ⟨fun content store s hcontent hrun p hp => ?_, fun hone => ?_, fun hfit => ?_⟩
  · obtain ⟨hle, hconsistent, m₁, m₂, hm₁, hm₂, hmetadata⟩ :=
      ((invariant_start hcontent store).run hrun).published p hp
    refine ⟨hle, hconsistent, m₁, m₂, hm₁, hm₂, hmetadata, fun heq => ?_⟩
    rw [hmetadata, hm₁.unique (heq ▸ hm₂)]
  · intro first second m₁ m₂ hfirst hsecond hload₁ hload₂ hconsistent
    obtain ⟨s, hrun, hversions, p, hp, -, hmetadata⟩ :=
      exists_run_mixed writes .empty hload₁ hload₂ hsecond hconsistent
    obtain ⟨version, content, hversion, hload⟩ := hone first .empty s hfirst hrun p hp
    rw [hmetadata] at hload
    have hmem : content ∈ s.versions := List.mem_of_getElem? hversion
    rw [hversions] at hmem
    rcases List.mem_pair.mp hmem with rfl | rfl
    · have heq : m₁ = ⟨m₁.entities, m₂.rules⟩ := Except.ok.inj (hload₁.symm.trans hload)
      exact .inr (by rw [heq])
    · have heq : (⟨m₁.entities, m₂.rules⟩ : Metadata) = m₂ :=
        Except.ok.inj (hload.symm.trans hload₂)
      exact .inl (by rw [← heq])
  · intro content store s hcontent hrun p hp
    have hinvariant := (invariant_start hcontent store).run hrun
    obtain ⟨-, hconsistent, m₁, m₂, hm₁, hm₂, hmetadata⟩ := hinvariant.published p hp
    obtain ⟨first, hfirst, hload₁⟩ := hinvariant.exists_writes hm₁
    obtain ⟨second, hsecond, hload₂⟩ := hinvariant.exists_writes hm₂
    rw [hmetadata] at hconsistent
    rcases hfit first second m₁ m₂ hfirst hsecond hload₁ hload₂ hconsistent with heq | heq
    · exact ⟨p.rulesFrom, by rw [hmetadata, heq]; exact hm₂⟩
    · exact ⟨p.entitiesFrom, by rw [hmetadata, ← heq]; exact hm₁⟩

/-! ### Tasks in a file -/

/-- A file that holds the document. -/
def fileOf (m : Metadata) : Option String :=
  some m.toJson.toCompact

theorem load_fileOf (h : m.IdsFit) : Metadata.load (fileOf m) = .ok m := by
  rw [fileOf, Metadata.load, Metadata.ofText?_of_isPrinted h (.inl rfl)]

theorem load_tasks : Metadata.load (fileOf taskMetadata) = .ok taskMetadata :=
  load_fileOf ⟨List.forall_mem_singleton.mpr ⟨rfl, List.forall_mem_singleton.mpr rfl⟩,
    List.forall_mem_singleton.mpr rfl⟩

/-- The document of tasks is written over itself while it is read. -/
theorem tasks_of_one_version :
    ∃ s, Run (· = fileOf taskMetadata) (start (fileOf taskMetadata) .empty) s ∧
      ∃ p ∈ s.published, p.entitiesFrom ≤ p.rulesFrom ∧
        p.catalog.metadata = taskMetadata ∧ ∃ version, s.Holds version taskMetadata := by
  have hconsistent : taskMetadata.Consistent := Catalog.consistent_of_build build_taskMetadata
  obtain ⟨s, hrun, -, p, hp, -, hmetadata⟩ :=
    exists_run_mixed (· = fileOf taskMetadata) .empty load_tasks load_tasks rfl hconsistent
  have hmetadata : p.catalog.metadata = taskMetadata := hmetadata
  obtain ⟨hfrom, hone⟩ := one_version_iff (· = fileOf taskMetadata)
  have hfit : ∀ first second m₁ m₂, first = fileOf taskMetadata → second = fileOf taskMetadata →
      Metadata.load first = .ok m₁ → Metadata.load second = .ok m₂ →
      Metadata.Consistent ⟨m₁.entities, m₂.rules⟩ →
        m₁.entities = m₂.entities ∨ m₁.rules = m₂.rules := by
    rintro _ _ m₁ m₂ rfl rfl hload₁ hload₂ -
    obtain rfl : m₁ = m₂ := Except.ok.inj (hload₁.symm.trans hload₂)
    exact .inl rfl
  obtain ⟨version, hversion⟩ := hone.mpr hfit _ .empty s rfl hrun p hp
  rw [hmetadata] at hversion
  exact ⟨s, hrun, p, hp, (hfrom _ .empty s rfl hrun p hp).1, hmetadata, version, hversion⟩

/-- **A rule that is lost.** The file holds the tasks with the rule that hides most of them, and
then neither entities nor rules. What is put into force in between is the tasks without the rule,
which the file has never held. -/
theorem mixed_versions_published :
    let files := [fileOf taskMetadata, fileOf ⟨[], []⟩]
    ∃ s, Run (· ∈ files) (start (fileOf taskMetadata) .empty) s ∧ s.versions = files ∧
      Metadata.load (fileOf taskMetadata) = .ok taskMetadata ∧
      Metadata.load (fileOf ⟨[], []⟩) = .ok ⟨[], []⟩ ∧
      ∃ p ∈ s.published, p.catalog = s.store.current ∧
        p.catalog.metadata = ⟨[taskEntity], []⟩ ∧
        ∀ version, ¬ s.Holds version p.catalog.metadata := by
  intro files
  have hempty : Metadata.load (fileOf ⟨[], []⟩) = .ok ⟨[], []⟩ :=
    load_fileOf ⟨List.forall_mem_nil _, List.forall_mem_nil _⟩
  have hconsistent : Metadata.Consistent ⟨taskMetadata.entities, []⟩ :=
    Catalog.consistent_of_build (Catalog.build_withoutRules build_taskMetadata)
  obtain ⟨s, hrun, hversions, p, hp, hcurrent, hmetadata⟩ :=
    exists_run_mixed (· ∈ files) .empty load_tasks hempty
      (List.mem_cons_of_mem _ List.mem_cons_self) hconsistent
  refine ⟨s, hrun, hversions, load_tasks, hempty, p, hp, hcurrent, hmetadata, ?_⟩
  rintro version ⟨content, hversion, hload⟩
  rw [hmetadata] at hload
  have hmem : content ∈ s.versions := List.mem_of_getElem? hversion
  rw [hversions] at hmem
  rcases List.mem_pair.mp hmem with rfl | rfl
  · have heq := congrArg Metadata.rules (Except.ok.inj (load_tasks.symm.trans hload))
    cases heq
  · have heq := congrArg Metadata.entities (Except.ok.inj (hempty.symm.trans hload))
    cases heq

end FileSession

end GuardedSearch
