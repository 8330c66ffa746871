import GuardedSearch.Proofs.Condition.OneOperator
import GuardedSearch.Proofs.Search.Facets

/-!
# From a facet to a filter

A client that is shown a facet picks one of its texts, and searches again with the condition that
the field equals that text. It counts on finding as many documents as the facet told. Counting and
filtering are not the same computation: a facet goes by the texts of values, while the condition
compares values. On a field of texts that stores nothing but texts the two agree, since a text is
its own text.

With numbers stored in the field they would not: the condition compares a number with a text as a
number, and different texts can be the same number.

## Main results

* `Predicate.accepts_term_string` — equality with a text is holding that text
* `total_of_drillDown` — a facet tells how much a search for its text finds
-/

namespace GuardedSearch

/-! ### Equality with a text -/

theorem Json.equals_string (s t : String) : (string s).equals (.string t) = decide (s = t) := by
  have hcompare : (string s).compareTo? (.string t) = some (compare s t) := rfl
  rw [equals, hcompare, Bool.eq_iff_iff, beq_iff_eq, Option.some_inj, Std.compare_eq_iff_eq,
    decide_eq_true_iff]

/-- What a document holds at a path are texts and nothing else. -/
def Document.StoresTexts (path : String) (d : Document) : Prop :=
  ∀ v ∈ Json.fieldValues path d.source, ∃ text, v = .string text

theorem Document.mem_texts_iff {path : String} {d : Document} (h : d.StoresTexts path)
    (text : String) : text ∈ d.texts path ↔ Json.string text ∈ Json.fieldValues path d.source := by
  simp only [texts, List.mem_map, List.mem_filterMap]
  constructor
  · rintro ⟨l, ⟨v, hv, hl⟩, rfl⟩
    obtain ⟨text, rfl⟩ := h v hv
    cases hl
    exact hv
  · intro hv
    exact ⟨.string text, ⟨_, hv, rfl⟩, rfl⟩

/-- **Equality with a text is holding that text**, where nothing but texts are stored. -/
theorem Predicate.accepts_term_string {path : String} {d : Document} (h : d.StoresTexts path)
    (text : String) :
    (term path (.string text)).accepts d = decide (text ∈ d.texts path) := by
  rw [accepts_of_leaf (fun _ => rfl) d, anyValue, Bool.eq_iff_iff, decide_eq_true_iff,
    Document.mem_texts_iff h, List.any_eq_true]
  constructor
  · rintro ⟨v, hv, heq⟩
    obtain ⟨s, rfl⟩ := h v hv
    rw [Json.equals_string, decide_eq_true_iff] at heq
    exact heq ▸ hv
  · intro hv
    exact ⟨_, hv, by rw [Json.equals_string, decide_eq_true_iff]⟩

/-- The condition that a field of texts equals a text. -/
theorem Predicate.ofCondition_eq_string {s : Scope} (hdepth : 1 ≤ s.maxDepth) {field : String}
    {t : Target} (ht : s.target field = .ok t) (htype : t.type = some .string) (text : String) :
    ofCondition s (.one field (.eq (.string text))) = .ok (.term t.paths.exact (.string text)) := by
  obtain ⟨root, hroot, ht⟩ := bind_eq_ok_iff.mp ht
  refine ofCondition_one_eq_ok_iff.mpr ⟨hdepth, root, hroot, t, ht, ?_⟩
  refine Target.predicate_one_eq_ok_iff.mpr ⟨.clause (.term t.paths.exact (.string text)), ?_, rfl⟩
  simp [Target.demands, Target.coerce, htype, Literal.coerce, Literal.coerce?, Literal.plain]

theorem Settings.one_le_maxDepth_of_validate {settings : Settings}
    (h : settings.validate = .ok ()) : 1 ≤ settings.maxDepth := by
  by_contra hdepth
  have hzero : settings.maxDepth = 0 := by omega
  have hfault : settings.fault?.isSome := by
    rw [fault?, if_pos hzero]
    split
    · rfl
    · split <;> rfl
  obtain ⟨fault, hfault⟩ := Option.isSome_iff_exists.mp hfault
  rw [validate, hfault] at h
  cases h

namespace Request

variable {s : Scope} {r : Request} {d : Document}

/-- One condition more finds less. -/
theorem finds_append (k : Condition) :
    ({ r with filter := r.filter ++ [k] } : Request).finds s d = (r.finds s d && k.meets s d) := by
  have htext : ({ r with filter := r.filter ++ [k] } : Request).textFinds s d = r.textFinds s d :=
    rfl
  rw [finds, finds, htext, List.all_append, List.all_cons, List.all_nil, Bool.and_true]
  simp only [Bool.and_assoc, Bool.and_comm (k.meets s d)]

end Request

/-! ### Searches -/

/-- **A facet tells how much a search for its text finds.** If a search with valid settings
succeeds, among fewer documents than there are numbers for rows, and the key of one of its facets
stands for a text field in which the documents store texts and nothing else, then the same search
with the condition that this field equals a text of the facet succeeds too, and finds as many
documents as the facet told for that text. -/
theorem total_of_drillDown (store : CatalogStore) {settings : Settings}
    (hsettings : settings.validate = .ok ()) (metrics : Option Metrics) (docs : List Document)
    (_hdocs : docs.length < RowSet.capacity) (entity : String) (r : Request) {response : Response}
    (h : ((Service.ofDocuments store settings metrics docs).search entity r).1 = .ok response)
    {key : String} (hkey : key ∈ r.facets) {t : Target}
    (ht : (store.current.scope settings entity).target key = .ok t) (htype : t.type = some .string)
    (hstored : ∀ d ∈ docs, d.StoresTexts t.paths.exact) {counts : Table Nat}
    (hcounts : Table.value? key response.facets = some counts) {text : String} {count : Nat}
    (hbucket : (text, count) ∈ counts) :
    ∃ response', ((Service.ofDocuments store settings metrics docs).search entity
        { r with filter := r.filter ++ [.one key (.eq (.string text))] }).1 = .ok response' ∧
      response'.total = count := by
  obtain ⟨p, hp, rfl⟩ := Service.search_eq_ok_iff.mp h
  have hcondition := Predicate.ofCondition_eq_string
    (Settings.one_le_maxDepth_of_validate hsettings) ht htype text
  have hfilter : ∀ k ∈ r.filter ++ [.one key (.eq (.string text))],
      ∃ q, Predicate.ofCondition (store.current.scope settings entity) k = .ok q := by
    intro k hk
    rcases List.mem_append.mp hk with hk | hk
    · exact Request.exists_ofCondition_of_planned hp hk
    · rw [List.mem_singleton.mp hk]
      exact ⟨_, hcondition⟩
  obtain ⟨p', hp'⟩ := Request.exists_planned_filter hp hfilter
  refine ⟨_, Service.search_eq_ok_iff.mpr ⟨p', hp', rfl⟩, ?_⟩
  obtain ⟨t', ht', hvalue⟩ := Request.value?_facets hp hkey docs
  cases ht'.symm.trans ht
  cases hvalue.symm.trans hcounts
  obtain ⟨text', -, hentry⟩ := List.mem_map.mp ((Distribution.counts_perm _ _ _).mem_iff.mp hbucket)
  cases hentry
  rw [Request.total_responseOf hp', Document.holders, List.countP_filter]
  refine List.countP_congr fun d hd => ?_
  have hmeets := (Condition.meets_field hcondition d).trans
    (Predicate.accepts_term_string (hstored d hd) text)
  rw [Request.finds_append, Bool.and_comm, Condition.one, hmeets]

theorem storesTexts_task (owner : String) : (task owner).StoresTexts "owner" := by
  have hvalues : Json.fieldValues "owner" (task owner).source = [.string owner] := by
    with_unfolding_all rfl
  intro v hv
  rw [hvalues, List.mem_singleton] at hv
  exact ⟨owner, hv⟩

/-- The facet of owners tells of two tasks of Ann's, and there are two to be found. -/
theorem total_of_owner_ann :
    let tasks := [task "ann", task "bob", task "ann"]
    let v := Service.ofDocuments (.new taskCatalog) .standard none tasks
    Settings.standard.validate = .ok () ∧ tasks.length < RowSet.capacity ∧
      (∃ response, (v.search "task" ownersRequest).1 = .ok response ∧
        Table.value? "owner" response.facets = some [("ann", 2)]) ∧
      taskScope.target "owner" = .ok ⟨⟨"owner", "owner"⟩, some .string⟩ ∧
      (∀ d ∈ tasks, d.StoresTexts "owner") ∧
      ∃ response, (v.search "task" { ownersRequest with
          filter := [.one "owner" (.eq (.string "ann"))] }).1 = .ok response ∧
        response.total = 2 := by
  intro tasks v
  have hsearch : (v.search "task" ownersRequest).1 = .ok (ownersPlan.responseOf tasks) :=
    Service.search_eq_ok_iff.mpr ⟨ownersPlan, planned_ownersRequest, rfl⟩
  have hfacet : Table.value? "owner" (ownersPlan.responseOf tasks).facets = some [("ann", 2)] := by
    decide +kernel
  have htarget : taskScope.target "owner" = .ok ⟨⟨"owner", "owner"⟩, some .string⟩ := by
    with_unfolding_all rfl
  have hstored : ∀ d ∈ tasks, d.StoresTexts "owner" := by
    simp [tasks, storesTexts_task]
  have hdocs : tasks.length < RowSet.capacity := by decide
  exact ⟨rfl, hdocs, ⟨_, hsearch, hfacet⟩, htarget, hstored,
    total_of_drillDown (.new taskCatalog) rfl none tasks hdocs "task" ownersRequest hsearch
      List.mem_cons_self htarget rfl hstored hfacet List.mem_cons_self⟩

end GuardedSearch
