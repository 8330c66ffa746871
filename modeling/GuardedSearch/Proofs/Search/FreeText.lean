import GuardedSearch.Proofs.Condition.StoredOnce
import GuardedSearch.Proofs.Policy.Enforcement
import GuardedSearch.Proofs.Search.Plan
import GuardedSearch.Proofs.Text.Words
import GuardedSearch.Proofs.Distribution.Ranking

/-!
# Free text

Free text is not asked of one field. It is looked for in all texts that a document has by its
metadata, those of the entities behind the root's bridges included, and one word in one of them is
enough. The paths that a backend goes through are made from the properties, and several properties
may have one path; what is found does not depend on this, since paths only count as a set.

The words of a text are blocks of letters and numbers, so that text can be free of them without
being blank. Such text finds nothing at all, whereas blank text asks for nothing.

## Main definitions

* `Scope.IsTextProperty` — the properties that free text is about
* `Scope.TextFinds` — a document has a word of the text in one of them

## Main results

* `Predicate.accepts_fullText_iff` — looking for a query at paths
* `free_text_covers` — what free text finds
-/

namespace GuardedSearch

/-! ### Properties and documents -/

/-- A text property of the root, or of an entity that one of its bridges leads to. -/
structure Scope.IsTextProperty (s : Scope) (root : Entity) (x : OwnedProperty) : Prop where
  owner : x.owner = root ∨ ∃ b ∈ root.bridges, s.catalog.reached? b = some x.owner
  mem : x.property ∈ x.owner.properties
  type : x.property.type = .string

theorem Scope.mem_textProperties_iff {s : Scope} {root : Entity} {x : OwnedProperty} :
    x ∈ s.textProperties root ↔ s.IsTextProperty root x := by
  rw [Catalog.mem_textProperties_iff, Catalog.mem_bridged_iff]
  exact ⟨fun ⟨howner, hmem, htype⟩ => ⟨howner, hmem, htype⟩, fun h => ⟨h.owner, h.mem, h.type⟩⟩

/-- A single value that the document has for search at the path is, as a text, one that has a word
in common with the given text. -/
def Document.SharesWordAt (d : Document) (path text : String) : Prop :=
  ∃ v, d.source.FoundAt path v ∧ ∃ t, v.text? = some t ∧ Text.ShareWord t text

/-- The document shares a word with the text in one of the text properties, at the path for search
that the property has from the root. -/
def Scope.TextFinds (s : Scope) (root : Entity) (text : String) (d : Document) : Prop :=
  ∃ x, s.IsTextProperty root x ∧
    ∃ paths, Catalog.pathsFrom root x = .ok paths ∧ d.SharesWordAt paths.text text

/-! ### Paths -/

namespace Scope

variable {s : Scope} {paths : List String}

/-- The paths that free text is looked for at are those of the text properties, each once. -/
theorem textPaths_eq_ok (h : s.textPaths = .ok paths) :
    ∃ root, s.root = .ok root ∧ paths.Nodup ∧
      ∀ path, path ∈ paths ↔ ∃ x, s.IsTextProperty root x ∧
        ∃ pair, Catalog.pathsFrom root x = .ok pair ∧ pair.text = path := by
  simp only [textPaths, bind_eq_ok_iff, pure_eq_ok_iff] at h
  obtain ⟨root, hroot, pairs, hpairs, rfl⟩ := h
  refine ⟨root, hroot, nodup_eraseDups _, fun path => ?_⟩
  simp only [List.mem_eraseDups, List.mem_map, ← mem_textProperties_iff]
  constructor
  · rintro ⟨pair, hpair, rfl⟩
    obtain ⟨x, hx, hpath⟩ := exists_of_mem_mapM hpairs hpair
    exact ⟨x, hx, pair, hpath, rfl⟩
  · rintro ⟨x, hx, pair, hpath, rfl⟩
    obtain ⟨pair', hpair', hpath'⟩ := exists_mem_of_mapM hpairs hx
    rw [hpath] at hpath'
    cases hpath'
    exact ⟨pair, hpair', rfl⟩

end Scope

/-! ### Documents that are found -/

namespace Predicate

theorem hasWord_iff {text : String} {v : Json} :
    hasWord (Text.words (Text.trim text)) v = true ↔
      ∃ t, v.text? = some t ∧ Text.ShareWord t text := by
  simp only [hasWord, Option.any_eq_true, Text.any_words_mem_words_iff]

/-- **Looking for a query at paths** is looking for a word of it at one of them. -/
theorem accepts_fullText_iff {paths : List String} {text : String} {d : Document} :
    (fullText paths (Text.trim text)).accepts d = true ↔
      ∃ path ∈ paths, d.SharesWordAt path text := by
  rw [accepts_fullText, hasQuery, List.any_eq_true]
  simp only [anyValue, List.any_eq_true, hasWord_iff, Json.mem_fieldValues_iff,
    Document.SharesWordAt]

/-- Text that is not blank becomes a predicate, if it has paths. -/
theorem ofText?_eq_ok {s : Scope} {text : String} {p : Option Predicate}
    (hblank : ∃ c ∈ text.toList, Text.isBlank c = false) (h : ofText? s text = .ok p) :
    ∃ paths, s.textPaths = .ok paths ∧ p = some (.fullText paths (Text.trim text)) := by
  rcases ofText?_eq_ok_iff.mp h with ⟨hempty, -⟩ | ⟨-, paths, hpaths, rfl⟩
  · obtain ⟨c, hc, hkeep⟩ := hblank
    have hnil : Text.trimChars text.toList = [] := by
      simpa [Text.trim] using hempty
    rw [Text.trimChars_eq_nil_iff.mp hnil c hc] at hkeep
    cases hkeep
  · exact ⟨paths, hpaths, rfl⟩

end Predicate

/-- **What free text finds.** Text that is not blank becomes, where it can be compiled, a predicate
on paths, which are those for search of the text properties of the root and of the entities that its
bridges lead to, seen from the root, and none of them twice. In any list of documents the predicate
matches the rows whose documents share a word with the text in one of these properties: a single
value that is found at the path, or stands in for what is not there, has, as a text, a longest block
of letters and numbers whose lower-case form is that of such a block of the text. Text without
letters and numbers finds no document. -/
theorem free_text_covers {s : Scope} {text : String}
    (hblank : ∃ c ∈ text.toList, Text.isBlank c = false) {q : Option Predicate}
    (h : Predicate.ofText? s text = .ok q) :
    ∃ root paths p, s.root = .ok root ∧ q = some p ∧ p = .fullText paths (Text.trim text) ∧
      paths.Nodup ∧
      (∀ path, path ∈ paths ↔ ∃ x, s.IsTextProperty root x ∧
        ∃ pair, Catalog.pathsFrom root x = .ok pair ∧ pair.text = path) ∧
      (∀ docs row, (p.rows docs).has row = true ↔
        ∃ d, docs[row]? = some d ∧ s.TextFinds root text d) ∧
      ((∀ c ∈ text.toList, Text.isWordChar c = false) →
        ∀ docs row, (p.rows docs).has row = false) := by
  obtain ⟨paths, hpaths, rfl⟩ := Predicate.ofText?_eq_ok hblank h
  obtain ⟨root, hroot, hnodup, hmem⟩ := Scope.textPaths_eq_ok hpaths
  have hfinds : ∀ d, (Predicate.fullText paths (Text.trim text)).accepts d = true ↔
      s.TextFinds root text d := by
    intro d
    simp only [Predicate.accepts_fullText_iff, hmem, Scope.TextFinds]
    constructor
    · rintro ⟨-, ⟨x, hx, pair, hpair, rfl⟩, hshare⟩
      exact ⟨x, hx, pair, hpair, hshare⟩
    · rintro ⟨x, hx, pair, hpair, hshare⟩
      exact ⟨_, ⟨x, hx, pair, hpair, rfl⟩, hshare⟩
  refine ⟨root, paths, _, hroot, rfl, rfl, hnodup, hmem, fun docs row => ?_, ?_⟩
  · rw [Predicate.has_rows, Option.any_eq_true]
    simp only [hfinds]
  · intro hwordless docs row
    rw [Predicate.has_rows, ← Bool.not_eq_true, Option.any_eq_true]
    rintro ⟨d, -, hd⟩
    obtain ⟨-, -, -, -, v, -, t, -, hshare⟩ := (hfinds d).mp hd
    exact Text.not_shareWord_of_forall hwordless t hshare

/-- A project with a title and tasks. -/
def projectOf (title : String) (owners : List String) : Document :=
  ⟨0, .object [("tasks", .array (owners.map fun owner => .object [("owner", .string owner)])),
    ("title_keyword", .string title)]⟩

/-- A project is found by the name of the owner of its second task, in other letters and between
signs. Signs alone find none. -/
theorem free_text_covers_owners :
    let title := (Property.field 2 "title" .string).withPath "title_keyword"
    let root := projectEntity [title, .bridge 3 "tasks" "Task"]
    let s : Scope := ⟨projectCatalog root.properties, "Project", 1⟩
    let docs := [projectOf "Bobsleigh" ["Ann"], projectOf "Move" ["Ann", "Bob B."]]
    (∃ ch ∈ "\t <BOB>".toList, Text.isBlank ch = false) ∧
      Predicate.ofText? s "\t <BOB>" =
        .ok (some (.fullText ["title_text", "tasks.owner"] "<BOB>")) ∧
      ((Predicate.fullText ["title_text", "tasks.owner"] "<BOB>").rows docs).has 1 = true ∧
      (∃ ch ∈ "<>".toList, Text.isBlank ch = false) ∧
      Predicate.ofText? s "<>" = .ok (some (.fullText ["title_text", "tasks.owner"] "<>")) ∧
      ((Predicate.fullText ["title_text", "tasks.owner"] "<>").rows docs).has 1 = false := by
  intro title root s docs
  have hblank : ∃ ch ∈ "\t <BOB>".toList, Text.isBlank ch = false :=
    ⟨'<', by decide +kernel, by decide +kernel⟩
  have hsigns : ∃ ch ∈ "<>".toList, Text.isBlank ch = false :=
    ⟨'<', by decide +kernel, by decide +kernel⟩
  have hwordless : "<>".toList.any Text.isWordChar = false := by decide +kernel
  have hcheck : Catalog.check (projectMetadata root.properties) = .ok () := by decide +kernel
  have hroot : s.root = .ok root := root_project hcheck
  have hpath : Catalog.pathsFrom root ⟨taskEntity, .field 1 "owner" .string⟩ =
      .ok (.ofPath "tasks.owner") :=
    pathsFrom_project hcheck (List.mem_cons_of_mem _ (List.mem_singleton_self _))
  have hpaths : s.textPaths = .ok ["title_text", "tasks.owner"] := by
    have htexts : s.textProperties root =
        [⟨root, title⟩, ⟨taskEntity, .field 1 "owner" .string⟩] := by
      decide +kernel
    have hunique : ([.ofPath title.ownPath, .ofPath "tasks.owner"].map PathPair.text).eraseDups =
        ["title_text", "tasks.owner"] := by
      decide +kernel
    rw [Scope.textPaths, hroot, ok_bind, htexts, List.mapM_cons, List.mapM_cons,
      Catalog.pathsFrom_self, hpath, ← hunique]
    rfl
  have htext : Predicate.ofText? s "\t <BOB>" =
      .ok (some (.fullText ["title_text", "tasks.owner"] "<BOB>")) :=
    Predicate.ofText?_eq_ok_iff.mpr
      (.inr ⟨by decide +kernel, _, hpaths, congrArg some (congrArg _ (by decide +kernel))⟩)
  have hsignsText : Predicate.ofText? s "<>" =
      .ok (some (.fullText ["title_text", "tasks.owner"] "<>")) :=
    Predicate.ofText?_eq_ok_iff.mpr
      (.inr ⟨by decide +kernel, _, hpaths, congrArg some (congrArg _ (by decide +kernel))⟩)
  refine ⟨hblank, htext, ?_, hsigns, hsignsText, ?_⟩
  · obtain ⟨root', -, p, hroot', hp, -, -, -, hrows, -⟩ := free_text_covers hblank htext
    cases hroot'.symm.trans hroot
    cases hp
    refine (hrows docs 1).mpr ⟨_, rfl, ⟨taskEntity, .field 1 "owner" .string⟩, ⟨?_, ?_, rfl⟩, ?_⟩
    · exact .inr ⟨.bridge 3 "tasks" "Task", by decide +kernel, by decide +kernel⟩
    · exact List.mem_singleton_self _
    · have hvalues : Json.valuesAt "tasks.owner" (projectOf "Move" ["Ann", "Bob B."]).source =
          [.string "Ann", .string "Bob B."] := by
        with_unfolding_all rfl
      have hsearched : (PathPair.ofPath "tasks.owner").text = "tasks.owner" := by decide +kernel
      refine ⟨_, hpath, .string "Bob B.", .there ?_, "Bob B.", rfl, "Bob".toList, "BOB".toList, ?_,
        ?_, by decide +kernel⟩
      · rw [hsearched, hvalues]
        exact List.mem_cons_of_mem _ (List.mem_singleton_self _)
      · exact Text.mem_blocks_iff.mp (by decide +kernel)
      · exact Text.mem_blocks_iff.mp (by decide +kernel)
  · obtain ⟨-, -, p, -, hp, -, -, -, -, hnone⟩ := free_text_covers hsigns hsignsText
    cases hp
    exact hnone (fun ch hch => by simpa using List.any_eq_false.mp hwordless ch hch) docs 1

end GuardedSearch
