import GuardedSearch.Proofs.Condition.Faults
import GuardedSearch.Proofs.Search.Facets

/-!
# Facets and statistics do not mix

What a backend reports goes through a table, under names that are made of what the client has
written: a facet is named by its key, statistics by their key behind a fixed beginning. A client may
repeat keys, ask for facets and statistics of the same field, and has fields whose names begin like
the names of statistics. The names are kept apart by a check of the whole request, which refuses no
more than it has to: two names can only be equal if a facet is called like the statistics of a key.

That the check is the only one to refuse a request for its names is not to be read off the check.
All other stages of a search can fail as well, some before it and some behind it; so it is shown of
each of them that it fails with something else.

## Main definitions

* `Scope.FacetKey`, `Scope.StatisticsKey` — the keys that there can be facets and statistics of
* `Request.bare` — a request without its facets and statistics
* `SearchError.NotAClash` — the errors of all stages but the check of names

## Main results

* `Request.planned_eq_bare` — facets and statistics are planned last
* `Request.exists_facetClash_iff` — when a request is refused for its names
* `aggregations_apart` — every key gets what is reported for it
-/

namespace GuardedSearch

/-! ### Stages that refuse no names -/

/-- The error is not that of the check of names. -/
def SearchError.NotAClash (e : SearchError) : Prop :=
  ∀ key, e ≠ .invalidRequest (.facetClash key)

section

open SearchError (NotAClash)

theorem Catalog.requireEntity_notAClash (c : Catalog) (name : String) :
    FailsWith NotAClash (c.requireEntity name) := by
  rw [requireEntity]
  split
  · exact failsWith_ok _
  · exact failsWith_error (by rintro _ ⟨⟩)

theorem SearchError.OfField.notAClash {root : Entity} {name : String} {e : SearchError}
    (h : e.OfField root name) : NotAClash e := by
  rintro key rfl
  rcases h with ⟨_, h⟩ | ⟨_, _, h⟩ <;> cases h

theorem Catalog.pathsFrom_notAClash (root : Entity) (p : OwnedProperty) :
    FailsWith NotAClash (pathsFrom root p) :=
  (pathsFrom_ofField root p.property.name p).mono fun _ => SearchError.OfField.notAClash

theorem Catalog.target_notAClash (c : Catalog) (root : Entity) (name : String) :
    FailsWith NotAClash (c.target root name) :=
  (c.target_ofField root name).mono fun _ => SearchError.OfField.notAClash

theorem Catalog.policy_notAClash (c : Catalog) (entity : String) :
    FailsWith NotAClash (c.policy entity) := by
  have hoperator : ∀ (rule : String) (k : RuleCondition),
      FailsWith NotAClash (k.filterOperator rule) := by
    intro rule k
    rw [RuleCondition.filterOperator.eq_def]
    split <;> first | exact failsWith_ok _ | exact failsWith_error (by rintro _ ⟨⟩)
  refine FailsWith.bind (FailsWith.mapM (fun rule => ?_) _) fun _ => failsWith_ok _
  exact FailsWith.mapM (fun k => (hoperator rule.name k).bind fun _ => failsWith_ok _) _

theorem Settings.page_notAClash (settings : Settings) (number size : Option Nat) :
    FailsWith NotAClash (settings.page number size) := by
  simp only [page]
  split
  · exact failsWith_error (by rintro _ ⟨⟩)
  · exact failsWith_ok _

/-! #### Filters -/

variable (s : Scope)

theorem Scope.root_notAClash : FailsWith NotAClash s.root :=
  s.catalog.requireEntity_notAClash s.entity

theorem Predicate.ofFilter_notAClash (filter : List Condition) :
    FailsWith NotAClash (ofFilter s filter) := by
  cases hroot : s.root with
  | error e =>
    rw [ofFilter, hroot]
    split
    · exact failsWith_ok _
    · exact failsWith_error (s.root_notAClash e hroot)
  | ok root =>
    refine (ofFilter_fails hroot filter).mono ?_
    rintro _ (rfl | ⟨name, h⟩)
    · rintro key ⟨⟩
    · exact h.notAClash

/-! #### Text and order -/

theorem Request.textPredicate_notAClash (r : Request) :
    FailsWith NotAClash (r.textPredicate s) := by
  have hpaths : FailsWith NotAClash s.textPaths :=
    s.root_notAClash.bind fun root =>
      (FailsWith.mapM (Catalog.pathsFrom_notAClash root) _).bind fun _ => failsWith_ok _
  rw [textPredicate]
  split
  · exact failsWith_ok _
  · simp only [Predicate.ofText?]
    split
    · exact failsWith_ok _
    · exact hpaths.bind fun _ => failsWith_ok _

theorem Scope.sortKeys_notAClash (fields : List SortField) :
    FailsWith NotAClash (s.sortKeys fields) := by
  rw [sortKeys]
  split
  · exact failsWith_ok _
  · refine s.root_notAClash.bind fun root => FailsWith.mapM (fun f => ?_) fields
    refine (s.catalog.target_notAClash root f.field).bind fun t => ?_
    split
    · exact failsWith_error (by rintro _ ⟨⟩)
    · exact failsWith_ok _

end

/-! ### Planning in two steps -/

/-- The request without its facets and statistics. -/
def Request.bare (r : Request) : Request :=
  { r with facets := [], statistics := [] }

/-- The same search, to be asked for other facets and statistics. -/
def PlannedSearch.withAggregations (p : PlannedSearch) (facets statistics : List Aggregation) :
    PlannedSearch :=
  ⟨{ p.plan with aggregations := facets ++ statistics }, facets, statistics⟩

namespace Request

variable (c : Catalog) (settings : Settings) (entity : String) (r : Request)

/-- **Facets and statistics are planned last.** -/
theorem planned_eq_bare :
    r.planned c settings entity = do
      let p ← r.bare.planned c settings entity
      let facets ← (c.scope settings entity).facets settings.facetCap r.facets
      let statistics ← (c.scope settings entity).statistics settings.statsCap r.statistics
      Admission.checkNames facets statistics
      return p.withAggregations facets statistics := by
  have hfacets : (c.scope settings entity).facets settings.facetCap [] = .ok [] := rfl
  have hstatistics : (c.scope settings entity).statistics settings.statsCap [] = .ok [] := rfl
  have hnames : Admission.checkNames [] [] = .ok () := rfl
  simp only [planned_eq, frame, bare, hfacets, hstatistics, hnames, bind_assoc, pure_bind, ok_bind]
  rfl

open SearchError (NotAClash)

theorem planned_bare_notAClash : FailsWith NotAClash (r.bare.planned c settings entity) := by
  rw [planned_eq]
  refine (c.requireEntity_notAClash entity).bind fun _ => ?_
  refine (settings.page_notAClash _ _).bind fun _ => ?_
  refine (c.policy_notAClash entity).bind fun _ => ?_
  refine (Predicate.ofFilter_notAClash _ _).bind fun _ => ?_
  refine FailsWith.bind ?_ fun _ => failsWith_ok _
  refine (r.bare.textPredicate_notAClash _).bind fun _ => ?_
  exact (Scope.sortKeys_notAClash _ _).bind fun _ => failsWith_ok _

end Request

/-! ### When names clash -/

theorem Admission.exists_checkNames_eq_clash_iff {facets statistics : List Aggregation} :
    (∃ key, checkNames facets statistics = .error (.invalidRequest (.facetClash key))) ↔
      ∃ f ∈ facets, ∃ s ∈ statistics, f.name = s.name := by
  have hok : checkNames facets statistics = .ok () ↔
      ¬∃ f ∈ facets, ∃ s ∈ statistics, f.name = s.name := by
    simpa only [not_exists, not_and] using checkNames_eq_ok_iff
  by_cases hclash : ∃ f ∈ facets, ∃ s ∈ statistics, f.name = s.name
  · refine iff_of_true ?_ hclash
    have hfails := mt hok.mp (not_not.mpr hclash)
    rw [checkNames] at hfails ⊢
    split at hfails
    · exact ⟨_, rfl⟩
    · exact absurd rfl hfails
  · refine iff_of_false ?_ hclash
    rintro ⟨key, hkey⟩
    cases hkey.symm.trans (hok.mpr hclash)

namespace Scope

variable {s : Scope}

/-- There can be facets of a key that stands for values, and not for whole entities. -/
def FacetKey (s : Scope) (key : String) : Prop :=
  ∃ t, s.target key = .ok t ∧ t.type ≠ some .entity

/-- There can be statistics of a key that stands for numbers, or for values of an unknown type. -/
def StatisticsKey (s : Scope) (key : String) : Prop :=
  ∃ t, s.target key = .ok t ∧ ∀ type, t.type = some type → type.isNumeric = true

theorem exists_facets_eq_ok {keys : List String} (h : ∀ key ∈ keys, s.FacetKey key) (cap : Nat) :
    ∃ as, s.facets cap keys = .ok as := by
  refine exists_mapM_eq_ok_iff.mpr fun key hkey => ?_
  obtain ⟨t, ht, htype⟩ := h key (List.mem_eraseDups.mp hkey)
  exact ⟨_, facet_eq_ok_iff.mpr ⟨t, ht, htype, rfl⟩⟩

theorem exists_statistics_eq_ok {keys : List String} (h : ∀ key ∈ keys, s.StatisticsKey key)
    (cap : Nat) : ∃ as, s.statistics cap keys = .ok as := by
  refine exists_mapM_eq_ok_iff.mpr fun key hkey => ?_
  obtain ⟨t, ht, htype⟩ := h key (List.mem_eraseDups.mp hkey)
  exact ⟨_, statistic_eq_ok_iff.mpr ⟨t, ht, htype, rfl⟩⟩

/-- Names clash as soon as a facet is called like the statistics of a key. -/
theorem names_clash_iff {facetCap statsCap : Nat} {facetKeys statisticsKeys : List String}
    {facets statistics : List Aggregation} (hfacets : s.facets facetCap facetKeys = .ok facets)
    (hstatistics : s.statistics statsCap statisticsKeys = .ok statistics) :
    (∃ f ∈ facets, ∃ a ∈ statistics, f.name = a.name) ↔
      ∃ facet ∈ facetKeys, ∃ key ∈ statisticsKeys,
        facet = Aggregation.statisticsName key := by
  have hfacet : ∀ name, (∃ f ∈ facets, f.name = name) ↔ name ∈ facetKeys := by
    intro name
    rw [← List.mem_map, map_name_facets hfacets, List.mem_eraseDups]
  have hstatistic : ∀ name, (∃ a ∈ statistics, a.name = name) ↔
      ∃ key ∈ statisticsKeys, Aggregation.statisticsName key = name := by
    intro name
    rw [← List.mem_map, map_name_statistics hstatistics, List.mem_map]
    simp only [List.mem_eraseDups]
  constructor
  · rintro ⟨f, hf, a, ha, hname⟩
    obtain ⟨key, hkey, hkeyname⟩ := (hstatistic a.name).mp ⟨a, ha, rfl⟩
    exact ⟨f.name, (hfacet _).mp ⟨f, hf, rfl⟩, key, hkey, hname.trans hkeyname.symm⟩
  · rintro ⟨facet, hmem, key, hkey, rfl⟩
    obtain ⟨f, hf, hfname⟩ := (hfacet _).mpr hmem
    obtain ⟨a, ha, haname⟩ := (hstatistic _).mpr ⟨key, hkey, rfl⟩
    exact ⟨f, hf, a, ha, hfname.trans haname.symm⟩

end Scope

namespace Request

variable {c : Catalog} {settings : Settings} {entity : String} {r : Request}

/-- If nothing else is wrong with a request, its names decide. -/
theorem planned_of_bare {p : PlannedSearch} {facets statistics : List Aggregation}
    (h : r.bare.planned c settings entity = .ok p)
    (hfacets : (c.scope settings entity).facets settings.facetCap r.facets = .ok facets)
    (hstatistics : (c.scope settings entity).statistics settings.statsCap r.statistics =
      .ok statistics) :
    r.planned c settings entity =
      (fun _ => p.withAggregations facets statistics) <$>
        Admission.checkNames facets statistics := by
  rw [planned_eq_bare, h]
  simp only [hfacets, hstatistics, ok_bind, bind_pure_comp]

/-- **When a request is refused for its names.** If there can be facets and statistics of all its
keys, and nothing else is wrong with it, it is refused exactly for a facet that is called like
statistics of its own. -/
theorem exists_facetClash_iff (hfacets : ∀ key ∈ r.facets, (c.scope settings entity).FacetKey key)
    (hstatistics : ∀ key ∈ r.statistics, (c.scope settings entity).StatisticsKey key) :
    (∃ key, r.planned c settings entity = .error (.invalidRequest (.facetClash key))) ↔
      (∃ p, r.bare.planned c settings entity = .ok p) ∧
        ∃ facet ∈ r.facets, ∃ key ∈ r.statistics, facet = Aggregation.statisticsName key := by
  obtain ⟨facets, hf⟩ := Scope.exists_facets_eq_ok hfacets settings.facetCap
  obtain ⟨statistics, hs⟩ := Scope.exists_statistics_eq_ok hstatistics settings.statsCap
  rw [← Scope.names_clash_iff hf hs, ← Admission.exists_checkNames_eq_clash_iff]
  cases hbare : r.bare.planned c settings entity with
  | error e =>
    refine iff_of_false ?_ (by simp)
    rintro ⟨key, hkey⟩
    rw [planned_eq_bare, hbare] at hkey
    cases hkey
    exact r.planned_bare_notAClash c settings entity _ hbare key rfl
  | ok p =>
    rw [planned_of_bare hbare hf hs]
    simp only [map_eq_error_iff, Except.ok.injEq, exists_eq', true_and]

end Request

/-! ### Searches -/

namespace Request

variable {c : Catalog} {settings : Settings} {entity : String} {r : Request} {p : PlannedSearch}

theorem names_facets_perm (h : r.planned c settings entity = .ok p) (answer : SearchAnswer) :
    (Table.names (p.response answer).facets).Perm r.facets.eraseDups := by
  have hkeys := Scope.map_key_facets (aggregations_planned h).1
  exact hkeys ▸ Aggregation.names_answers_perm (hkeys ▸ nodup_eraseDups _)

theorem names_statistics_perm (h : r.planned c settings entity = .ok p) (answer : SearchAnswer) :
    (Table.names (p.response answer).statistics).Perm r.statistics.eraseDups := by
  have hkeys := Scope.map_key_statistics (aggregations_planned h).2.1
  exact hkeys ▸ Aggregation.names_answers_perm (hkeys ▸ nodup_eraseDups _)

end Request

/-- **Facets and statistics do not mix.** If a search succeeds, no two of the aggregations that its
backend was asked for have one name, there are facets of exactly the keys that were asked for and
statistics of exactly those, and what stands under a key is made of the distribution that the
backend reports under the name of one aggregation, that of the values at the path of the key: the
counts of its buckets under the texts of their values, or the statistics of it. If the backend
reports nothing there, the facet is empty and the statistics are zero. Documents, if there are fewer
than numbers for rows, report there what is found at this path. If there can be facets and
statistics of all keys, a search is refused for a clash of names exactly if a facet is called like
statistics that it asks for as well, unless something else is wrong with it, which is reported
first. -/
theorem aggregations_apart (v : Service) (entity : String) (r : Request) :
    let s := v.store.current.scope v.settings entity
    (∀ response, (v.search entity r).1 = .ok response →
      ∃ p, r.planned v.store.current v.settings entity = .ok p ∧
      ∃ answer, v.backend p.plan = .ok answer ∧
        (p.plan.aggregations.map Aggregation.name).Nodup ∧
        (Table.names response.facets).Perm r.facets.eraseDups ∧
        (Table.names response.statistics).Perm r.statistics.eraseDups ∧
        (∀ key ∈ r.facets, ∃ a ∈ p.plan.aggregations, s.Aggregates v.settings.facetCap key key a ∧
          (∀ d, Table.value? a.name answer.distributions = some d →
            Table.value? key response.facets =
              some (Table.ofList (d.buckets.map fun b => (b.value.plain, b.count)))) ∧
          (Table.value? a.name answer.distributions = none →
            Table.value? key response.facets = some [])) ∧
        (∀ key ∈ r.statistics, ∃ a ∈ p.plan.aggregations,
          s.Aggregates v.settings.statsCap key (Aggregation.statisticsName key) a ∧
          (∀ d, Table.value? a.name answer.distributions = some d →
            Table.value? key response.statistics = some (.ofDistribution d)) ∧
          (Table.value? a.name answer.distributions = none →
            Table.value? key response.statistics =
              some ⟨.zero, .zero, .zero, .zero, 0, false⟩)) ∧
        ∀ docs, v.backend = .ofDocuments docs → docs.length < RowSet.capacity →
          ∀ a ∈ p.plan.aggregations, Table.value? a.name answer.distributions =
            some (.ofDocuments a.path a.cap (docs.filter (r.finds s)))) ∧
    ((∀ key ∈ r.facets, s.FacetKey key) → (∀ key ∈ r.statistics, s.StatisticsKey key) →
      (∀ plan, FailsWith SearchError.NotAClash (v.backend plan)) →
      ((∃ key, (v.search entity r).1 = .error (.invalidRequest (.facetClash key))) ↔
        (∃ p, r.bare.planned v.store.current v.settings entity = .ok p) ∧
          ∃ facet ∈ r.facets, ∃ key ∈ r.statistics,
            facet = Aggregation.statisticsName key)) := by
  intro s
  have hsearch : (v.search entity r).1 = _ :=
    r.response_run v.store.current v.settings v.backend entity
  constructor
  · intro response hresponse
    rw [hsearch] at hresponse
    simp only [bind_eq_ok_iff, pure_eq_ok_iff] at hresponse
    obtain ⟨p, hp, answer, hanswer, rfl⟩ := hresponse
    refine ⟨p, hp, answer, hanswer, Request.nodup_names_planned hp,
      Request.names_facets_perm hp answer, Request.names_statistics_perm hp answer,
      fun key hkey => Request.exists_aggregates_facet hp hkey answer,
      fun key hkey => Request.exists_aggregates_statistics hp hkey answer, ?_⟩
    intro docs hdocs _ a ha
    rw [hdocs] at hanswer
    cases hanswer
    exact Request.value?_distributions hp ha docs
  · intro hfacets hstatistics hbackend
    rw [← Request.exists_facetClash_iff hfacets hstatistics, hsearch]
    refine exists_congr fun key => ?_
    rw [bind_eq_error_iff, or_iff_left]
    -- A plan has been made, and the backend does not know of keys.
    rintro ⟨p, -, hp⟩
    rcases bind_eq_error_iff.mp hp with hp | ⟨answer, -, ⟨⟩⟩
    exact hbackend p.plan _ hp key rfl

/-! ### Prices -/

/-- The catalog of products, each with its price and with a field that is called like the statistics
of prices. -/
def productCatalog : Catalog :=
  ⟨[⟨1, "Product", true, [.field 1 "price" .double, .field 2 "stats_price" .double]⟩], [], 0⟩

/-- Two products of one price, each of which is stored with another number beside it. -/
def products : List Document :=
  [⟨0, .object [("price", .ofNat 5), ("stats_price", .ofNat 7)]⟩,
    ⟨1, .object [("price", .ofNat 5), ("stats_price", .ofNat 8)]⟩]

/-- Products are searched for with no metrics kept. -/
def productService : Service :=
  .ofDocuments (.new productCatalog) .standard none products

/-- The request for prices, as a facet and as statistics, and for another facet. -/
def pricesRequest (facet : String) : Request :=
  { Request.blank with facets := ["price", facet, "price"], statistics := ["price"] }

/-- The plan of the request for prices alone. -/
def pricesPlan : PlannedSearch :=
  PlanFrame.planned ⟨none, [], [⟨"price", "price", "price", some .double, 20⟩],
    [⟨"stats_price", "price", "price", some .double, 20⟩]⟩ .matchAll ⟨0, 10⟩

theorem planned_pricesRequest :
    (pricesRequest "price").planned productCatalog .standard "product" = .ok pricesPlan := rfl

theorem filter_finds_products :
    products.filter ((pricesRequest "price").finds (productCatalog.scope .standard "product")) =
      products :=
  Request.filter_finds_of_matchAll planned_pricesRequest rfl products

/-- What is reported of the prices of products: the two have one price. -/
theorem ofDocuments_price :
    Distribution.ofDocuments "price" 20 products = ⟨[⟨.int 5, 2⟩], 0⟩ := by
  decide +kernel

/-- Prices are counted once however often they are asked for, and what is stored beside them is not
counted among them, neither in the facet nor in the statistics; a facet that is called like their
statistics is refused. -/
theorem aggregations_apart_products :
    (∃ response, (productService.search "product" (pricesRequest "price")).1 = .ok response ∧
      (Table.names response.facets).Perm ["price"] ∧
      (Table.names response.statistics).Perm ["price"] ∧
      Table.value? "price" response.facets = some [("5", 2)] ∧
      Table.value? "price" response.statistics =
        some ⟨.ofInt 5, .ofInt 5, .ofInt 5, .ofInt 10, 2, false⟩) ∧
    ∃ key, (productService.search "product" (pricesRequest "stats_price")).1 =
      .error (.invalidRequest (.facetClash key)) := by
  constructor
  · have hsearch : (productService.search "product" (pricesRequest "price")).1 =
        .ok (pricesPlan.responseOf products) :=
      Service.search_eq_ok_iff.mpr ⟨pricesPlan, planned_pricesRequest, rfl⟩
    obtain ⟨p, hp, answer, -, -, hfacets, hstatistics, hfacet, hstatistic, hreported⟩ :=
      (aggregations_apart productService "product" (pricesRequest "price")).1 _ hsearch
    cases planned_pricesRequest.symm.trans hp
    have hprices : ∀ a ∈ pricesPlan.plan.aggregations,
        Table.value? a.name answer.distributions = some ⟨[⟨.int 5, 2⟩], 0⟩ := by
      intro a ha
      have hdistribution := hreported products rfl (by decide) a ha
      change _ = some (Distribution.ofDocuments a.path a.cap (products.filter
        ((pricesRequest "price").finds (productCatalog.scope .standard "product"))))
        at hdistribution
      rw [hdistribution, filter_finds_products, ← ofDocuments_price]
      rcases List.mem_pair.mp ha with rfl | rfl <;> rfl
    refine ⟨_, hsearch, hfacets, hstatistics, ?_, ?_⟩
    · obtain ⟨a, ha, -, hcounts, -⟩ := hfacet "price" List.mem_cons_self
      rw [hcounts _ (hprices a ha)]
      decide +kernel
    · obtain ⟨a, ha, -, htold, -⟩ := hstatistic "price" List.mem_cons_self
      rw [htold _ (hprices a ha)]
      decide +kernel
  · refine ((aggregations_apart productService "product" (pricesRequest "stats_price")).2
      ?_ ?_ ?_).mpr ⟨⟨_, rfl⟩, "stats_price", by decide, "price", by decide, rfl⟩
    · intro key hkey
      simp only [pricesRequest, List.mem_cons] at hkey
      rcases hkey with rfl | rfl | rfl | ⟨⟨⟩⟩ <;> exact ⟨_, rfl, by rintro ⟨⟩⟩
    · intro key hkey
      cases List.mem_singleton.mp hkey
      exact ⟨_, rfl, by rintro _ ⟨⟩; rfl⟩
    · exact fun plan => failsWith_ok _

end GuardedSearch
