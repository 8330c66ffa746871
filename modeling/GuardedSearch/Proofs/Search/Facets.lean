import GuardedSearch.Proofs.Distribution.Ranking
import GuardedSearch.Proofs.Search.Matching

/-!
# Facets

A facet tells how many of the documents that a search finds hold each text at a path. Behind it are
a distribution that the backend reports under the name of an aggregation, and a table that the
response makes of it. Neither may lose or mix up anything: no two aggregations of a search have one
name, and no two buckets of a distribution one text. So the facet of a key is the front of the
ranking of the texts at the path of the key, with the number of documents for each.

It is taken of all documents that are found, whatever page is shown, and not of their order.

## Main definitions

* `Scope.Aggregates` — the aggregations of the values at the path of a key

## Main results

* `Request.nodup_names_planned` — no two aggregations of a search have one name
* `Request.value?_facets`, `Request.value?_statistics` — what a response tells under a key
* `facets_count_holders` — facets count exactly the documents that hold each text
-/

namespace GuardedSearch

/-! ### Aggregations of a request -/

namespace Scope

variable {s : Scope} {cap : Nat} {key : String} {a : Aggregation}

theorem facet_eq_ok_iff : s.facet cap key = .ok a ↔
    ∃ t, s.target key = .ok t ∧ t.type ≠ some .entity ∧
      (⟨key, key, t.paths.exact, t.type, cap⟩ : Aggregation) = a := by
  simp only [facet, bind_eq_ok_iff]
  refine exists_congr fun t => and_congr_right fun _ => ?_
  by_cases h : t.type = some .entity
  · simp [h]
  · simp [h]

theorem statistic_eq_ok_iff : s.statistic cap key = .ok a ↔
    ∃ t, s.target key = .ok t ∧ (∀ type, t.type = some type → type.isNumeric = true) ∧
      (⟨Aggregation.statisticsName key, key, t.paths.exact, t.type, cap⟩ : Aggregation) = a := by
  simp only [statistic, bind_eq_ok_iff]
  refine exists_congr fun t => and_congr_right fun _ => ?_
  cases htype : t.type with
  | none => simp
  | some type => cases hnumeric : type.isNumeric <;> simp [hnumeric]

theorem map_name_facets {keys : List String} {as : List Aggregation}
    (h : s.facets cap keys = .ok as) : as.map Aggregation.name = keys.eraseDups := by
  rw [map_eq_map_of_mapM (h := id) h, List.map_id]
  intro key a ha
  obtain ⟨t, -, -, rfl⟩ := facet_eq_ok_iff.mp ha
  rfl

theorem map_key_facets {keys : List String} {as : List Aggregation}
    (h : s.facets cap keys = .ok as) : as.map Aggregation.key = keys.eraseDups := by
  rw [map_eq_map_of_mapM (h := id) h, List.map_id]
  intro key a ha
  obtain ⟨t, -, -, rfl⟩ := facet_eq_ok_iff.mp ha
  rfl

theorem map_name_statistics {keys : List String} {as : List Aggregation}
    (h : s.statistics cap keys = .ok as) :
    as.map Aggregation.name = keys.eraseDups.map Aggregation.statisticsName := by
  refine map_eq_map_of_mapM h fun key a ha => ?_
  obtain ⟨t, -, -, rfl⟩ := statistic_eq_ok_iff.mp ha
  rfl

theorem map_key_statistics {keys : List String} {as : List Aggregation}
    (h : s.statistics cap keys = .ok as) : as.map Aggregation.key = keys.eraseDups := by
  rw [map_eq_map_of_mapM (h := id) h, List.map_id]
  intro key a ha
  obtain ⟨t, -, -, rfl⟩ := statistic_eq_ok_iff.mp ha
  rfl

end Scope

namespace Aggregation

theorem statisticsName_injective : Function.Injective statisticsName := by
  intro key key' h
  simpa [statisticsName] using h

section

variable {α : Type} {view : Aggregation → α} {asked : List Aggregation}

/-- An answer has an entry for each key, if no two aggregations have one key. -/
theorem names_answers_perm (h : (asked.map key).Nodup) :
    (Table.names (answers view asked)).Perm (asked.map key) := by
  have hnames : Table.names (asked.map fun a => (a.key, view a)) = asked.map key := by
    rw [Table.names, List.map_map]
    rfl
  exact hnames ▸ (Table.ofList_perm (hnames ▸ h)).map Prod.fst

theorem value?_answers (h : (asked.map key).Nodup) {a : Aggregation} (ha : a ∈ asked) :
    Table.value? a.key (answers view asked) = some (view a) := by
  refine Table.value?_ofList ?_ (List.mem_map_of_mem ha)
  rw [Table.names, List.map_map]
  exact h

end

/-- What is told under a key is the view of the aggregation that was asked for the key. -/
theorem exists_value?_answers {α : Type} (view : Aggregation → α) {asked : List Aggregation}
    {one : String → Except SearchError Aggregation} {keys : List String}
    (h : keys.eraseDups.mapM one = .ok asked) (hkeys : asked.map key = keys.eraseDups) {k : String}
    (hk : k ∈ keys) :
    ∃ a ∈ asked, one k = .ok a ∧ Table.value? a.key (answers view asked) = some (view a) := by
  obtain ⟨a, ha, hone⟩ := exists_mem_of_mapM h (List.mem_eraseDups.mpr hk)
  exact ⟨a, ha, hone, value?_answers (hkeys ▸ nodup_eraseDups _) ha⟩

end Aggregation

/-! ### What is made of a distribution -/

namespace Aggregation

variable {ds : Distributions} {a : Aggregation}

theorem countsOf_of_reported {d : Distribution} (h : Table.value? a.name ds = some d) :
    countsOf ds a = d.counts := by
  rw [countsOf, h]
  rfl

/-- A facet of which nothing is reported has no texts. -/
theorem countsOf_of_not_reported (h : Table.value? a.name ds = none) : countsOf ds a = [] := by
  rw [countsOf, h]
  rfl

theorem statisticsOf_of_reported {d : Distribution} (h : Table.value? a.name ds = some d) :
    statisticsOf ds a = .ofDistribution d := by
  rw [statisticsOf, h]

/-- Statistics of which nothing is reported are zero throughout. -/
theorem statisticsOf_of_not_reported (h : Table.value? a.name ds = none) :
    statisticsOf ds a = ⟨.zero, .zero, .zero, .zero, 0, false⟩ := by
  rw [statisticsOf, h]
  rfl

end Aggregation

/-! ### Names of aggregations -/

theorem Admission.checkNames_eq_ok_iff {facets statistics : List Aggregation} :
    checkNames facets statistics = .ok () ↔ ∀ f ∈ facets, ∀ s ∈ statistics, f.name ≠ s.name := by
  rw [checkNames]
  split
  case h_1 f hf =>
    simp only [reduceCtorEq, false_iff]
    intro h
    have hany := List.find?_some hf
    obtain ⟨s, hs, hname⟩ := List.any_eq_true.mp hany
    exact h f (List.mem_of_find?_eq_some hf) s hs (eq_of_beq hname).symm
  case h_2 hnone =>
    simp only [true_iff]
    intro f hf s hs hname
    have hclash := List.find?_eq_none.mp hnone f hf
    exact hclash (List.any_eq_true.mpr ⟨s, hs, by simp [hname]⟩)

/-! ### What is reported under a name -/

/-- An aggregation of the values at the path of a key, under a name and with a cap. -/
def Scope.Aggregates (s : Scope) (cap : Nat) (key name : String) (a : Aggregation) : Prop :=
  a.name = name ∧ a.cap = cap ∧ ∃ t, s.target key = .ok t ∧ a.path = t.paths.exact

namespace Request

variable {c : Catalog} {settings : Settings} {entity : String} {r : Request} {p : PlannedSearch}

theorem aggregations_planned (h : r.planned c settings entity = .ok p) :
    (c.scope settings entity).facets settings.facetCap r.facets = .ok p.facets ∧
      (c.scope settings entity).statistics settings.statsCap r.statistics = .ok p.statistics ∧
      Admission.checkNames p.facets p.statistics = .ok () ∧
      p.plan.aggregations = p.facets ++ p.statistics := by
  obtain ⟨-, -, -, -, -, -, filter, -, frame, hframe, rfl⟩ := planned_eq_ok_iff.mp h
  obtain ⟨-, -, hfacets, hstatistics, hnames⟩ := frame_eq_ok_iff.mp hframe
  exact ⟨hfacets, hstatistics, hnames, rfl⟩

/-- **No two aggregations of a search have one name.** -/
theorem nodup_names_planned (h : r.planned c settings entity = .ok p) :
    (p.plan.aggregations.map Aggregation.name).Nodup := by
  obtain ⟨hfacets, hstatistics, hnames, haggregations⟩ := aggregations_planned h
  rw [haggregations, List.map_append, List.nodup_append]
  refine ⟨?_, ?_, ?_⟩
  · rw [Scope.map_name_facets hfacets]
    exact nodup_eraseDups _
  · rw [Scope.map_name_statistics hstatistics]
    exact (nodup_eraseDups _).map Aggregation.statisticsName_injective
  · intro name hname name' hname'
    obtain ⟨f, hf, rfl⟩ := List.mem_map.mp hname
    obtain ⟨s, hs, rfl⟩ := List.mem_map.mp hname'
    exact Admission.checkNames_eq_ok_iff.mp hnames f hf s hs

/-- Under the name of an aggregation stands what was asked for. -/
theorem value?_distributions (h : r.planned c settings entity = .ok p) {a : Aggregation}
    (ha : a ∈ p.plan.aggregations) (docs : List Document) :
    Table.value? a.name (p.plan.distributions docs) =
      some (.ofDocuments a.path a.cap
        (docs.filter (r.finds (c.scope settings entity)))) := by
  rw [SearchPlan.distributions, ← matching_planned h]
  refine Table.value?_ofList ?_ (List.mem_map.mpr ⟨a, ha, rfl⟩)
  rw [Table.names, List.map_map]
  exact nodup_names_planned h

/-- Each facet of a response is made of the distribution that is reported for the path of its
key. -/
theorem exists_aggregates_facet (h : r.planned c settings entity = .ok p) {key : String}
    (hkey : key ∈ r.facets) (answer : SearchAnswer) :
    ∃ a ∈ p.plan.aggregations,
      (c.scope settings entity).Aggregates settings.facetCap key key a ∧
      (∀ d, Table.value? a.name answer.distributions = some d →
        Table.value? key (p.response answer).facets = some d.counts) ∧
      (Table.value? a.name answer.distributions = none →
        Table.value? key (p.response answer).facets = some []) := by
  obtain ⟨hfacets, -, -, haggregations⟩ := aggregations_planned h
  obtain ⟨a, ha, hfacet, hvalue⟩ := Aggregation.exists_value?_answers
    (Aggregation.countsOf answer.distributions) hfacets (Scope.map_key_facets hfacets) hkey
  obtain ⟨t, ht, -, rfl⟩ := Scope.facet_eq_ok_iff.mp hfacet
  refine ⟨_, haggregations ▸ List.mem_append_left _ ha, ⟨rfl, rfl, t, ht, rfl⟩, fun d hd => ?_,
    fun hnone => ?_⟩
  · exact hvalue.trans (congrArg some (Aggregation.countsOf_of_reported hd))
  · exact hvalue.trans (congrArg some (Aggregation.countsOf_of_not_reported hnone))

/-- The statistics of a response are made of the distribution that is reported for the path of their
key. -/
theorem exists_aggregates_statistics (h : r.planned c settings entity = .ok p) {key : String}
    (hkey : key ∈ r.statistics) (answer : SearchAnswer) :
    ∃ a ∈ p.plan.aggregations,
      (c.scope settings entity).Aggregates settings.statsCap key
        (Aggregation.statisticsName key) a ∧
      (∀ d, Table.value? a.name answer.distributions = some d →
        Table.value? key (p.response answer).statistics = some (.ofDistribution d)) ∧
      (Table.value? a.name answer.distributions = none →
        Table.value? key (p.response answer).statistics =
          some ⟨.zero, .zero, .zero, .zero, 0, false⟩) := by
  obtain ⟨-, hstatistics, -, haggregations⟩ := aggregations_planned h
  obtain ⟨a, ha, hstatistic, hvalue⟩ := Aggregation.exists_value?_answers
    (Aggregation.statisticsOf answer.distributions) hstatistics
    (Scope.map_key_statistics hstatistics) hkey
  obtain ⟨t, ht, -, rfl⟩ := Scope.statistic_eq_ok_iff.mp hstatistic
  refine ⟨_, haggregations ▸ List.mem_append_right _ ha, ⟨rfl, rfl, t, ht, rfl⟩, fun d hd => ?_,
    fun hnone => ?_⟩
  · exact hvalue.trans (congrArg some (Aggregation.statisticsOf_of_reported hd))
  · exact hvalue.trans (congrArg some (Aggregation.statisticsOf_of_not_reported hnone))

/-- **What a response tells under the key of a facet.** -/
theorem value?_facets (h : r.planned c settings entity = .ok p) {key : String}
    (hkey : key ∈ r.facets) (docs : List Document) :
    ∃ t, (c.scope settings entity).target key = .ok t ∧
      Table.value? key (p.responseOf docs).facets =
        some (Distribution.ofDocuments t.paths.exact settings.facetCap
          (docs.filter (r.finds (c.scope settings entity)))).counts := by
  obtain ⟨a, ha, ⟨-, hcap, t, ht, hpath⟩, htold, -⟩ :=
    exists_aggregates_facet h hkey (p.plan.run docs)
  refine ⟨t, ht, ?_⟩
  rw [← hpath, ← hcap]
  exact htold _ (value?_distributions h ha docs)

/-- **What a response tells under the key of statistics.** -/
theorem value?_statistics (h : r.planned c settings entity = .ok p) {key : String}
    (hkey : key ∈ r.statistics) (docs : List Document) :
    ∃ t, (c.scope settings entity).target key = .ok t ∧
      Table.value? key (p.responseOf docs).statistics =
        some (Statistics.ofDistribution (.ofDocuments t.paths.exact settings.statsCap
          (docs.filter (r.finds (c.scope settings entity))))) := by
  obtain ⟨a, ha, ⟨-, hcap, t, ht, hpath⟩, htold, -⟩ :=
    exists_aggregates_statistics h hkey (p.plan.run docs)
  refine ⟨t, ht, ?_⟩
  rw [← hpath, ← hcap]
  exact htold _ (value?_distributions h ha docs)

/-- The order of the documents does not show in facets. -/
theorem facets_responseOf_of_perm (h : r.planned c settings entity = .ok p)
    {docs docs' : List Document} (hperm : docs.Perm docs') :
    (p.responseOf docs).facets = (p.responseOf docs').facets := by
  obtain ⟨-, -, -, haggregations⟩ := aggregations_planned h
  refine congrArg Table.ofList (List.map_congr_left fun a ha => Prod.ext rfl ?_)
  have hmem : a ∈ p.plan.aggregations := haggregations ▸ List.mem_append_left _ ha
  have hreported := value?_distributions h hmem docs
  have hreported' := value?_distributions h hmem docs'
  change Aggregation.countsOf (p.plan.distributions docs) a =
    Aggregation.countsOf (p.plan.distributions docs') a
  rw [Aggregation.countsOf_of_reported hreported, Aggregation.countsOf_of_reported hreported']
  exact Distribution.counts_ofDocuments_of_perm a.path (hperm.filter _) a.cap

end Request

/-! ### Searches -/

/-- **Facets count exactly.** If a search succeeds, among fewer documents than there are numbers for
rows, each facet key that it was asked for stands for values at a path, and under that key stand the
front of the ranking of the texts that the documents found hold there, as many as the cap allows,
each with the number of documents that hold it. Any other order of the documents gives the same
facets. -/
theorem facets_count_holders (store : CatalogStore) (settings : Settings)
    (metrics : Option Metrics) (docs : List Document) (_hdocs : docs.length < RowSet.capacity)
    (entity : String) (r : Request) {response : Response}
    (h : ((Service.ofDocuments store settings metrics docs).search entity r).1 = .ok response) :
    let s := store.current.scope settings entity
    let found := docs.filter (r.finds s)
    (∀ key ∈ r.facets, ∃ t, s.target key = .ok t ∧
      ∃ ranked, Distribution.IsRanking t.paths.exact found ranked ∧
      ∃ counts, Table.value? key response.facets = some counts ∧
        counts.length = min settings.facetCap ranked.length ∧
        counts.Perm ((ranked.take settings.facetCap).map fun text =>
          (text, Document.holders t.paths.exact found text))) ∧
    ∀ docs', docs.Perm docs' → ∃ response',
      ((Service.ofDocuments store settings metrics docs').search entity r).1 = .ok response' ∧
        response'.facets = response.facets := by
  intro s found
  obtain ⟨p, hp, rfl⟩ := Service.search_eq_ok_iff.mp h
  constructor
  · intro key hkey
    obtain ⟨t, ht, hvalue⟩ := Request.value?_facets hp hkey docs
    have hcounts := Distribution.counts_perm t.paths.exact found settings.facetCap
    refine ⟨t, ht, _, Distribution.isRanking_rankedTexts _ _, _, hvalue, ?_, hcounts⟩
    rw [hcounts.length_eq, List.length_map, List.length_take]
  · intro docs' hperm
    refine ⟨_, Service.search_eq_ok_iff.mpr ⟨p, hp, rfl⟩, ?_⟩
    exact (Request.facets_responseOf_of_perm hp hperm).symm

/-- The request for the owners of tasks, as a facet. -/
def ownersRequest : Request :=
  { Request.blank with facets := ["owner"] }

/-- The plan of the request for the owners of tasks. -/
def ownersPlan : PlannedSearch :=
  PlanFrame.planned ⟨none, [], [⟨"owner", "owner", "owner", some .string, 20⟩], []⟩ annOwns ⟨0, 10⟩

theorem planned_ownersRequest :
    ownersRequest.planned taskScope.catalog .standard taskScope.entity = .ok ownersPlan :=
  Request.planned_eq_ok_iff.mpr ⟨taskEntity, rfl, ⟨0, 10⟩, rfl, _, policy_taskScope, annOwns, rfl,
    ⟨none, [], [⟨"owner", "owner", "owner", some .string, 20⟩], []⟩, rfl, rfl⟩

theorem filter_finds_owners :
    [task "ann", task "bob", task "ann"].filter (ownersRequest.finds taskScope) =
      [task "ann", task "ann"] := by
  have hann : ownersRequest.finds taskScope (task "ann") = true := by decide +kernel
  have hbob : ownersRequest.finds taskScope (task "bob") = false := by decide +kernel
  simp [hann, hbob]

/-- Of the tasks of Ann and Bob, the facet of owners counts Ann's alone. -/
theorem facets_count_owners :
    let tasks := [task "ann", task "bob", task "ann"]
    let v := Service.ofDocuments (.new taskCatalog) .standard none tasks
    tasks.length < RowSet.capacity ∧
      ∃ response, (v.search "task" ownersRequest).1 = .ok response ∧
        Table.value? "owner" response.facets = some [("ann", 2)] := by
  intro tasks v
  have hdocs : tasks.length < RowSet.capacity := by decide
  have hsearch : (v.search "task" ownersRequest).1 = .ok (ownersPlan.responseOf tasks) :=
    Service.search_eq_ok_iff.mpr ⟨ownersPlan, planned_ownersRequest, rfl⟩
  refine ⟨hdocs, _, hsearch, ?_⟩
  obtain ⟨t, ht, ranked, hranked, counts, hvalue, -, hcounts⟩ :=
    (facets_count_holders (.new taskCatalog) .standard none tasks hdocs "task" ownersRequest
      hsearch).1 "owner" List.mem_cons_self
  have hpath : t.paths.exact = "owner" := by
    cases ht
    rfl
  have hfound : tasks.filter (ownersRequest.finds taskScope) = [task "ann", task "ann"] :=
    filter_finds_owners
  have hann : (task "ann").texts "owner" = ["ann"] := by decide +kernel
  have hone : Distribution.IsRanking "owner" [task "ann", task "ann"] ["ann"] :=
    ⟨List.nodup_singleton _, by simp [hann], List.pairwise_singleton _ _⟩
  have htwo : Document.holders "owner" [task "ann", task "ann"] "ann" = 2 := by decide +kernel
  change Distribution.IsRanking _ (tasks.filter (ownersRequest.finds taskScope)) ranked at hranked
  rw [hpath, hfound] at hranked
  cases hranked.unique hone
  change counts.Perm
    [("ann", Document.holders _ (tasks.filter (ownersRequest.finds taskScope)) "ann")] at hcounts
  rw [hpath, hfound, htwo] at hcounts
  rw [hvalue, List.perm_singleton.mp hcounts]

end GuardedSearch
