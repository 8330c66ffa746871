import GuardedSearch.Proofs.Search.Matching
import GuardedSearch.Proofs.Sorting.Arrangement
import Mathlib.Order.Bounds.Defs

/-!
# Pages

A client reads hits page by page. What it reads is a partition: no hit is lost between two pages,
none is shown twice, and the number of pages that it is told is the number of pages on which there
is something to read. How many hits there are, and what facets and statistics say of them, is the
same on every page.

The number of a page is any number, however large. The product of it and of the size of pages stops
growing at the greatest offset, and a page out there must not be taken for one that begins at that
offset among the hits; it is not, since there are never more documents than that.

## Main results

* `Settings.Page.cut_eq_nil_iff` — the pages on which there is nothing
* `pages_partition_hits` — the pages of a search are a partition of its hits
-/

namespace GuardedSearch

namespace Settings.Page

variable {α : Type}

theorem cut_eq_nil_iff {p : Page} (hsize : 0 < p.size) {items : List α} :
    p.cut items = [] ↔ items.length ≤ p.offset := by
  rw [cut, List.take_eq_nil_iff, List.drop_eq_nil_iff]
  exact or_iff_right (Nat.pos_iff_ne_zero.mp hsize)

/-- The greatest offset does not come into play among fewer items. -/
theorem le_offset_iff {p : Page} {total : Nat} (htotal : total ≤ maxOffset) :
    total ≤ p.offset ↔ total ≤ p.number * p.size := by
  rw [offset, Nat.le_min]
  exact and_iff_left htotal

end Settings.Page

theorem Response.isLeast_pageCount {size : Nat} (hsize : 0 < size) (total : Nat) :
    IsLeast {count | total ≤ count * size} (pageCount total size) :=
  ⟨(Service.pageCount_le_iff hsize).mp (Nat.le_refl _),
    fun _ h => (Service.pageCount_le_iff hsize).mpr h⟩

/-- Hits are in the order of the keys that the request sorts by, and those that the keys do not tell
apart are in the order of the documents. -/
theorem Request.hits_ordered {c : Catalog} {settings : Settings} {entity : String} {r : Request}
    {p : PlannedSearch} (h : r.planned c settings entity = .ok p) (docs : List Document) :
    ∃ keys, (c.scope settings entity).sortKeys r.sort = .ok keys ∧
      (r.hits (c.scope settings entity) docs).Pairwise
        (fun d e => ¬ SortKey.BeforeBy keys e d) ∧
      ∀ d e, [d, e].Sublist (docs.filter (r.finds (c.scope settings entity))) →
        ¬ SortKey.BeforeBy keys e d → [d, e].Sublist (r.hits (c.scope settings entity) docs) := by
  have hkeys := sortKeys_of_planned h
  have hhits : r.hits (c.scope settings entity) docs =
      SortKey.sort p.plan.sort (docs.filter (r.finds (c.scope settings entity))) := by
    rw [hits, hkeys]
  rw [hhits]
  exact ⟨_, hkeys, SortKey.pairwise_sort _ _, fun d e hpair hnot =>
    SortKey.pair_sublist_sort hnot hpair⟩

namespace Service

variable {store : CatalogStore} {settings : Settings} {metrics : Option Metrics}
  {docs : List Document} {entity : String} {r : Request}

/-- What a search finds is the same list on every page. -/
theorem finds_hits {response : Response}
    (h : ((ofDocuments store settings metrics docs).search entity r).1 = .ok response) :
    (ofDocuments store settings metrics docs).Finds entity r
      (r.hits (store.current.scope settings entity) docs) := by
  obtain ⟨p, hp, -⟩ := search_eq_ok_iff.mp h
  rw [← Request.allHits_planned hp]
  exact finds_allHits hp

/-- Another page of the same search. -/
theorem exists_search_page {response : Response}
    (h : ((ofDocuments store settings metrics docs).search entity r).1 = .ok response)
    (number : Nat) :
    ∃ page, ((ofDocuments store settings metrics docs).search entity
        { r with page := some number }).1 = .ok page ∧
      page.total = response.total ∧ page.pages = response.pages ∧
      page.facets = response.facets ∧ page.statistics = response.statistics := by
  obtain ⟨p, hp, rfl⟩ := search_eq_ok_iff.mp h
  have hpage := Request.planned_page_eq_ok hp (some number)
  have hsize : p.plan.page.size = r.size.getD settings.defaultPageSize :=
    Request.pageSize_planned hp
  refine ⟨_, search_eq_ok_iff.mpr ⟨_, hpage, rfl⟩, rfl, ?_, rfl, rfl⟩
  exact congrArg (Response.pageCount _) hsize.symm

end Service

/-- **The pages of a search are a partition of its hits.** If a search succeeds, its pages have a
size, and it takes the least number of pages to hold all hits. The pages put together are the hits,
that is all documents that the request finds, as often as they are stored. They are in the order of
the keys that the request sorts by: no hit stands behind one that it comes before, and two of which
neither comes before the other stand as they are stored. Every page below their number has hits, and
every page from there on, however far, is empty. All pages tell the same numbers, facets and
statistics. There are fewer documents than numbers for rows, and far fewer than the greatest
offset. -/
theorem pages_partition_hits (store : CatalogStore) (settings : Settings)
    (metrics : Option Metrics) {docs : List Document} (hdocs : docs.length < RowSet.capacity)
    (entity : String) (r : Request) {response : Response}
    (h : ((Service.ofDocuments store settings metrics docs).search entity r).1 = .ok response) :
    let v := Service.ofDocuments store settings metrics docs
    let hits := r.hits (v.scope entity) docs
    0 < v.pageSize r ∧
      response.total = hits.length ∧
      IsLeast {count | response.total ≤ count * v.pageSize r} response.pages ∧
      hits.Perm (docs.filter (r.finds (v.scope entity))) ∧
      (∃ keys, (v.scope entity).sortKeys r.sort = .ok keys ∧
        hits.Pairwise (fun d e => ¬ SortKey.BeforeBy keys e d) ∧
        ∀ d e, [d, e].Sublist (docs.filter (r.finds (v.scope entity))) →
          ¬ SortKey.BeforeBy keys e d → [d, e].Sublist hits) ∧
      (∃ pages : List (List Json),
        (List.range response.pages).mapM (fun n =>
          Response.results <$> (v.search entity { r with page := some n }).1) = .ok pages ∧
        pages.flatten = hits.map Document.source) ∧
      ∀ number, ∃ page, (v.search entity { r with page := some number }).1 = .ok page ∧
        (page.results = [] ↔ response.pages ≤ number) ∧
        page.total = response.total ∧ page.pages = response.pages ∧
        page.facets = response.facets ∧ page.statistics = response.statistics := by
  intro v hits
  have hsize : 0 < v.pageSize r := Service.pageSize_pos h
  have hfinds : v.Finds entity r hits := Service.finds_hits h
  obtain ⟨p, hp, rfl⟩ := Service.search_eq_ok_iff.mp h
  have hperm : hits.Perm (docs.filter (r.finds (v.scope entity))) := Request.hits_perm hp docs
  have hlength : hits.length ≤ Settings.Page.maxOffset :=
    calc hits.length = (docs.filter (r.finds (v.scope entity))).length := hperm.length_eq
      _ ≤ docs.length := List.length_filter_le _ docs
      _ ≤ RowSet.capacity := Nat.le_of_lt hdocs
      _ ≤ Settings.Page.maxOffset := by decide
  obtain ⟨own, hown, -, htotal, hpages⟩ := hfinds r.page
  cases hown.symm.trans h
  refine ⟨hsize, htotal, ?_, hperm, Request.hits_ordered hp docs, ?_, fun number => ?_⟩
  · rw [htotal, hpages]
    exact Response.isLeast_pageCount hsize hits.length
  · rw [hpages]
    exact hfinds.flatten_results hlength
  · obtain ⟨page, hpage, hsame⟩ := Service.exists_search_page h number
    obtain ⟨page', hpage', hresults, -⟩ := hfinds (some number)
    cases hpage'.symm.trans hpage
    refine ⟨page, hpage, ?_, hsame⟩
    rw [hresults, List.map_eq_nil_iff, Settings.Page.cut_eq_nil_iff hsize,
      Settings.Page.le_offset_iff hlength, hpages, Service.pageCount_le_iff hsize]
    rfl

/-- Three tasks of Ann's take two pages of two. There is nothing on the page after those, nor on a
page that is too far out for its offset. -/
theorem pages_partition_tasks :
    let tasks := [task "ann", task "bob", task "ann", task "ann"]
    let v := Service.ofDocuments (.new taskCatalog) .standard none tasks
    let r : Request := { Request.blank with size := some 2 }
    tasks.length < RowSet.capacity ∧
      ∃ response, (v.search "task" r).1 = .ok response ∧
        response.total = 3 ∧ response.pages = 2 ∧
        ∀ number, (∃ page, (v.search "task" { r with page := some number }).1 = .ok page ∧
          page.results = []) ↔ 2 ≤ number := by
  intro tasks v r
  let p := PlanFrame.planned ⟨none, [], [], []⟩ annOwns ⟨0, 2⟩
  have hplanned : r.planned taskScope.catalog .standard taskScope.entity = .ok p :=
    Request.planned_eq_ok_iff.mpr ⟨taskEntity, rfl, ⟨0, 2⟩, rfl, _, policy_taskScope, annOwns, rfl,
      ⟨none, [], [], []⟩, rfl, rfl⟩
  have hsearch : (v.search "task" r).1 = .ok (p.responseOf tasks) :=
    Service.search_eq_ok_iff.mpr ⟨p, hplanned, rfl⟩
  have hdocs : tasks.length < RowSet.capacity := by decide
  have hcount : (p.responseOf tasks).pages = 2 := by decide +kernel
  obtain ⟨-, -, -, -, -, -, hpages⟩ :=
    pages_partition_hits (.new taskCatalog) .standard none hdocs "task" r hsearch
  refine ⟨hdocs, p.responseOf tasks, hsearch, by decide +kernel, hcount, fun number => ?_⟩
  obtain ⟨page, hpage, hnil, -⟩ := hpages number
  rw [← hcount, ← hnil]
  constructor
  · rintro ⟨page', hpage', hresults⟩
    cases hpage'.symm.trans hpage
    exact hresults
  · intro hresults
    exact ⟨page, hpage, hresults⟩

end GuardedSearch
