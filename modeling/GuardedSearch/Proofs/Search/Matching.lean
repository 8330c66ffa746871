import GuardedSearch.Proofs.Search.Containment

/-!
# What a request finds

What a search shows, counts and leaves out is decided by one test of documents: the policy lets the
document through, the client's filter does, and the free text finds it. The order of hits is decided
by the fields to sort by. Neither has to do with pages, facets or statistics; so all that is said of
those is said of the same list of hits.

## Main definitions

* `Request.finds` — whether a request finds a document
* `Request.hits` — the documents that a request finds, in their order

## Main results

* `Request.accepts_planned_eq_finds`, `Request.allHits_planned` — what is planned is to find these
* `Request.exists_planned_filter` — a plan does not depend on the filter to exist
-/

namespace GuardedSearch

/-! ### One test of documents -/

/-- Whether the policy lets a document through. -/
def Scope.lets (s : Scope) (d : Document) : Bool :=
  match s.catalog.policy s.entity with
  | .ok policy => policy.all (Condition.meets s d)
  | .error _ => false

namespace Request

/-- Whether a request finds a document. -/
def finds (s : Scope) (r : Request) (d : Document) : Bool :=
  s.lets d && r.filter.all (Condition.meets s d) && r.textFinds s d

/-- The documents that a request finds, in the order that it asks for. -/
def hits (s : Scope) (r : Request) (docs : List Document) : List Document :=
  match s.sortKeys r.sort with
  | .ok keys => SortKey.sort keys (docs.filter (r.finds s))
  | .error _ => []

variable {c : Catalog} {settings : Settings} {entity : String} {r : Request} {p : PlannedSearch}

theorem accepts_planned_eq_finds (h : r.planned c settings entity = .ok p) (d : Document) :
    p.plan.predicate.accepts d = r.finds (c.scope settings entity) d := by
  obtain ⟨root, -, page, -, policy, hpolicy, filter, hfilter, frame, hframe, rfl⟩ :=
    planned_eq_ok_iff.mp h
  have hlets : (c.scope settings entity).lets d =
      policy.all (Condition.meets (c.scope settings entity) d) := by
    rw [Scope.lets, show (c.scope settings entity).catalog.policy (c.scope settings entity).entity =
      .ok policy from hpolicy]
  rw [PlanFrame.planned, Predicate.accepts_withText, Predicate.accepts_ofFilter hfilter,
    all_accepts_textPredicate (frame_eq_ok_iff.mp hframe).1, List.all_append, finds, hlets,
    Bool.and_comm (policy.all _)]

theorem matching_planned (h : r.planned c settings entity = .ok p) (docs : List Document) :
    p.plan.predicate.matching docs = docs.filter (r.finds (c.scope settings entity)) := by
  rw [Predicate.matching_eq_filter, funext (accepts_planned_eq_finds h)]

/-- A plan that lets everything through finds all documents. -/
theorem filter_finds_of_matchAll (h : r.planned c settings entity = .ok p)
    (hall : p.plan.predicate = .matchAll) (docs : List Document) :
    docs.filter (r.finds (c.scope settings entity)) = docs := by
  rw [← matching_planned h, hall, Predicate.matching_eq_filter]
  exact List.filter_eq_self.mpr fun d _ => Predicate.accepts_matchAll d

theorem total_responseOf (h : r.planned c settings entity = .ok p) (docs : List Document) :
    (p.responseOf docs).total = docs.countP (r.finds (c.scope settings entity)) := by
  rw [List.countP_eq_length_filter, ← matching_planned h]
  rfl

theorem sortKeys_of_planned (h : r.planned c settings entity = .ok p) :
    (c.scope settings entity).sortKeys r.sort = .ok p.plan.sort := by
  obtain ⟨-, -, -, -, -, -, filter, -, frame, hframe, rfl⟩ := planned_eq_ok_iff.mp h
  exact (frame_eq_ok_iff.mp hframe).2.1

theorem allHits_planned (h : r.planned c settings entity = .ok p) (docs : List Document) :
    p.plan.allHits docs = r.hits (c.scope settings entity) docs := by
  rw [SearchPlan.allHits, hits, sortKeys_of_planned h, matching_planned h]

/-- What is planned finds each document that the request finds as often as it is stored. -/
theorem hits_perm (h : r.planned c settings entity = .ok p) (docs : List Document) :
    (r.hits (c.scope settings entity) docs).Perm
      (docs.filter (r.finds (c.scope settings entity))) := by
  rw [← allHits_planned h, ← matching_planned h]
  exact SortKey.sort_perm _ _

end Request

/-! ### Plans for other filters -/

namespace Request

variable {c : Catalog} {settings : Settings} {entity : String} {r : Request} {p : PlannedSearch}

/-- What is planned for a request can be planned for any filter of which each condition has a
predicate. -/
theorem exists_planned_filter (h : r.planned c settings entity = .ok p) {filter : List Condition}
    (hfilter : ∀ k ∈ filter, ∃ q, Predicate.ofCondition (c.scope settings entity) k = .ok q) :
    ∃ p', ({ r with filter } : Request).planned c settings entity = .ok p' := by
  obtain ⟨root, hroot, page, hpage, policy, hpolicy, both, hboth, frame, hframe, -⟩ :=
    planned_eq_ok_iff.mp h
  have hguards := (List.forall_mem_append.mp
    (Predicate.exists_ofFilter_eq_ok_iff.mp ⟨both, hboth⟩)).2
  obtain ⟨both', hboth'⟩ := Predicate.exists_ofFilter_eq_ok_iff.mpr
    (List.forall_mem_append.mpr ⟨hfilter, hguards⟩)
  exact ⟨_, planned_eq_ok_iff.mpr ⟨root, hroot, page, hpage, policy, hpolicy, both', hboth',
    frame, hframe, rfl⟩⟩

/-- The conditions of a filter that is planned have predicates. -/
theorem exists_ofCondition_of_planned (h : r.planned c settings entity = .ok p) {k : Condition}
    (hk : k ∈ r.filter) : ∃ q, Predicate.ofCondition (c.scope settings entity) k = .ok q := by
  obtain ⟨-, -, -, -, policy, -, both, hboth, -⟩ := planned_eq_ok_iff.mp h
  exact Predicate.exists_ofFilter_eq_ok_iff.mp ⟨both, hboth⟩ k (List.mem_append_left policy hk)

end Request

end GuardedSearch
