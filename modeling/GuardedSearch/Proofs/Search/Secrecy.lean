import GuardedSearch.Proofs.Search.Containment

/-!
# Nothing shows of hidden documents

The policy of an entity hides documents from a client. A client who cannot see them cannot tell
whether they are there: two lists of documents of which the policy lets the same sources through, in
the same order, give the same outcome of every search. That is more than that no hidden document is
among the hits, since a search also counts, sorts, cuts out pages, and fails.

The whole outcome is made from the list of documents that match, so it is enough to follow that
list. The policy is a conjunct of the predicate, and what else the predicate asks for it asks of
sources.

## Main definitions

* `Scope.visible` — the sources that the policy lets through

## Main results

* `PlannedSearch.responseOf_congr` — a response depends on the sources of what matches
* `search_eq_of_visible_eq` — a search depends on the visible sources, and its errors on none
-/

namespace GuardedSearch

variable {docs docs' : List Document}

/-! ### Sources are all that counts -/

namespace Predicate

theorem map_source_matching (p : Predicate) (docs : List Document) :
    (p.matching docs).map Document.source =
      (docs.map Document.source).filter fun v => p.accepts ⟨0, v⟩ := by
  rw [matching_eq_filter, List.filter_map]
  refine congrArg (List.map Document.source) (List.filter_congr fun d _ => ?_)
  have hsource : d.source = (⟨0, d.source⟩ : Document).source := rfl
  exact accepts_congr hsource p

/-- What is left of a conjunction once one part has been applied is applied to sources. -/
theorem map_source_matching_congr {p guard q : Predicate}
    (haccepts : ∀ d, p.accepts d = (guard.accepts d && q.accepts d))
    (h : (guard.matching docs).map Document.source = (guard.matching docs').map Document.source) :
    (p.matching docs).map Document.source = (p.matching docs').map Document.source := by
  have hsplit : ∀ docs, p.matching docs = q.matching (guard.matching docs) := by
    intro docs
    rw [matching_eq_filter, matching_eq_filter, matching_eq_filter, List.filter_filter,
      funext haccepts]
    exact List.filter_congr fun d _ => Bool.and_comm _ _
  rw [hsplit, hsplit, map_source_matching q, map_source_matching q, h]

end Predicate

theorem TextedValue.flatMap_ofDocument (path : String) (docs : List Document) :
    docs.flatMap (ofDocument path) =
      (docs.map Document.source).flatMap fun v => ofDocument path ⟨0, v⟩ := by
  rw [List.flatMap_map]
  rfl

theorem Distribution.ofDocuments_congr (path : String) (cap : Nat)
    (h : docs.map Document.source = docs'.map Document.source) :
    ofDocuments path cap docs = ofDocuments path cap docs' := by
  rw [ofDocuments, ofDocuments, allBuckets, allBuckets, TextedValue.flatMap_ofDocument,
    TextedValue.flatMap_ofDocument, h]

namespace SearchPlan

variable (plan : SearchPlan)

theorem distributions_congr
    (h : (plan.predicate.matching docs).map Document.source =
      (plan.predicate.matching docs').map Document.source) :
    plan.distributions docs = plan.distributions docs' := by
  rw [distributions, distributions]
  refine congrArg Table.ofList (List.map_congr_left fun a _ => ?_)
  rw [Distribution.ofDocuments_congr a.path a.cap h]

theorem map_source_cut_congr
    (h : (plan.predicate.matching docs).map Document.source =
      (plan.predicate.matching docs').map Document.source) :
    (plan.page.cut (plan.allHits docs)).map Document.source =
      (plan.page.cut (plan.allHits docs')).map Document.source := by
  simp only [Settings.Page.cut, allHits, List.map_take, List.map_drop, SortKey.map_source_sort, h]

end SearchPlan

/-- **A response shows the documents that match**, and of those the sources only. -/
theorem PlannedSearch.responseOf_congr (p : PlannedSearch)
    (h : (p.plan.predicate.matching docs).map Document.source =
      (p.plan.predicate.matching docs').map Document.source) :
    p.responseOf docs = p.responseOf docs' := by
  have hresults := p.plan.map_source_cut_congr h
  have htotal : (p.plan.predicate.matching docs).length =
      (p.plan.predicate.matching docs').length := by
    simpa using congrArg List.length h
  have hdistributions := p.plan.distributions_congr h
  simp only [responseOf, response, SearchPlan.run, hresults, htotal, hdistributions]

/-! ### Searches -/

/-- The sources of the documents that the policy lets through, in their order. None is let through
if the policy has no predicate. -/
def Scope.visible (s : Scope) (docs : List Document) : List Json :=
  match s.guard with
  | .ok guard => (guard.matching docs).map Document.source
  | .error _ => []

theorem Request.responseOf_eq_of_visible_eq {c : Catalog} {settings : Settings} {entity : String}
    {r : Request} {p : PlannedSearch} (hp : r.planned c settings entity = .ok p)
    (h : (c.scope settings entity).visible docs = (c.scope settings entity).visible docs') :
    p.responseOf docs = p.responseOf docs' := by
  obtain ⟨guard, hguard, p₀, -, -, haccepts, -⟩ := Request.planned_withRules_nil hp 0
  simp only [Scope.visible, hguard] at h
  exact p.responseOf_congr (Predicate.map_source_matching_congr haccepts h)

/-- Two lists that show the same sources have the same outcome, down to what is counted of it. -/
theorem Request.run_eq_of_visible_eq {c : Catalog} {settings : Settings} {entity : String}
    {r : Request}
    (h : (c.scope settings entity).visible docs = (c.scope settings entity).visible docs') :
    r.run c settings (.ofDocuments docs) entity = r.run c settings (.ofDocuments docs') entity := by
  have hresponse : (r.run c settings (.ofDocuments docs) entity).response =
      (r.run c settings (.ofDocuments docs') entity).response := by
    rw [response_run_ofDocuments, response_run_ofDocuments]
    cases hp : r.planned c settings entity with
    | error e => rfl
    | ok p => exact congrArg Except.ok (responseOf_eq_of_visible_eq hp h)
  rw [run, run] at hresponse ⊢
  cases hadmission : r.admission c settings entity with
  | error e => rfl
  | ok a =>
    simp only [hadmission] at hresponse ⊢
    rw [hresponse]

/-- **Nothing shows of hidden documents.** The outcome of a search, and what is counted of it, is
the same over any two lists of documents of which the policy of the entity lets the same sources
through in the same order, as long as there are numbers for the rows of both. Whether a search
fails, and with which error, does not depend on the documents at all. -/
theorem search_eq_of_visible_eq (store : CatalogStore) (settings : Settings)
    (metrics : Option Metrics) (entity : String) (r : Request) :
    let service := Service.ofDocuments store settings metrics
    let s := store.current.scope settings entity
    (∀ docs docs', docs.length < RowSet.capacity → docs'.length < RowSet.capacity →
      s.visible docs = s.visible docs' →
      ((service docs).search entity r).1 = ((service docs').search entity r).1 ∧
        ((service docs).search entity r).2.metrics = ((service docs').search entity r).2.metrics) ∧
    ∀ docs docs' e, ((service docs).search entity r).1 = .error e ↔
      ((service docs').search entity r).1 = .error e := by
  refine ⟨fun docs docs' _ _ h => ?_, fun docs docs' e => ?_⟩
  · have hrun : r.run store.current settings (.ofDocuments docs) entity =
        r.run store.current settings (.ofDocuments docs') entity := Request.run_eq_of_visible_eq h
    simp only [Service.search, Service.ofDocuments, hrun, and_self]
  · rw [Service.search_ofDocuments, Service.search_ofDocuments, map_eq_error_iff, map_eq_error_iff]

/-- A task of Bob before the tasks of Ann changes nothing for those who may see Ann's alone. -/
theorem search_tasks_eq_of_visible_eq :
    taskScope.visible [task "bob", task "ann"] = taskScope.visible [task "ann"] ∧
      ((Service.ofDocuments (.new taskCatalog) .standard none [task "bob", task "ann"]).search
        "task" .blank).1 =
      ((Service.ofDocuments (.new taskCatalog) .standard none [task "ann"]).search
        "task" .blank).1 := by
  have hvisible :
      taskScope.visible [task "bob", task "ann"] = taskScope.visible [task "ann"] := by
    rw [Scope.visible, Scope.visible, guard_taskScope]
    rfl
  exact ⟨hvisible, ((search_eq_of_visible_eq (.new taskCatalog) .standard none "task" .blank).1
    _ _ (by decide) (by decide) hvisible).1⟩

end GuardedSearch
