import GuardedSearch.Proofs.Condition.Meaning
import GuardedSearch.Proofs.Sorting.Order
import GuardedSearch.Service

/-!
# From a request to a plan

A search fails while it is planned or not at all, as long as its backend is a list of documents. So
a search falls into two parts: a plan, which is made from the request and the catalog alone, and the
answer of the documents to it. The policy of the entity enters into the plan at one place, the
filter, where its conditions stand behind those of the client; everything else that is planned is
the same under any rules.

## Main definitions

* `Request.planned` — the plan of a request
* `PlanFrame`, `Request.frame` — all that is planned apart from the filter and the page
* `Scope.guard` — the predicate of the policy that the scope is under
* `Request.textFinds` — whether the free text of a request finds a document

## Main results

* `Request.response_run`, `Request.response_run_ofDocuments` — a search is the answer of a backend,
  or of documents, to its plan
* `Request.planned_eq` — the stages of planning
* `Request.planned_page_eq_ok` — pages of one request have one plan but for the page
* `ofFilter_withRules`, `frame_withRules` — what does not depend on the rules
* `accepts_planned` — the policy is a conjunct of what is planned
-/

namespace GuardedSearch

/-! ### Two parts of a search -/

/-- What the names in a request for an entity are seen from. -/
def Catalog.scope (c : Catalog) (settings : Settings) (entity : String) : Scope :=
  ⟨c, entity, settings.maxDepth⟩

/-- The plan of a request. -/
def Request.planned (c : Catalog) (settings : Settings) (entity : String) (r : Request) :
    Except SearchError PlannedSearch := do
  (← r.admission c settings entity).plan settings r

/-- The response of a list of documents to a plan. -/
def PlannedSearch.responseOf (p : PlannedSearch) (docs : List Document) : Response :=
  p.response (p.plan.run docs)

/-- A backend is asked once, and only after everything else has succeeded. -/
theorem Request.response_run (c : Catalog) (settings : Settings) (backend : Backend)
    (entity : String) (r : Request) :
    (r.run c settings backend entity).response = do
      let p ← r.planned c settings entity
      return p.response (← backend p.plan) := by
  rw [run, planned]
  cases r.admission c settings entity <;> rfl

/-- Documents are asked only once nothing can fail any more. -/
theorem Request.response_run_ofDocuments (c : Catalog) (settings : Settings) (entity : String)
    (r : Request) (docs : List Document) :
    (r.run c settings (.ofDocuments docs) entity).response =
      (·.responseOf docs) <$> r.planned c settings entity := by
  rw [response_run]
  cases r.planned c settings entity <;> rfl

/-! ### Planning -/

/-- All that is planned apart from the filter and the page. -/
structure PlanFrame where
  text : Option Predicate
  sort : List SortKey
  facets : List Aggregation
  statistics : List Aggregation

/-- The plan with the given filter and page. -/
def PlanFrame.planned (f : PlanFrame) (filter : Predicate) (page : Settings.Page) :
    PlannedSearch :=
  ⟨⟨filter.withText f.text, f.sort, page, f.facets ++ f.statistics⟩, f.facets, f.statistics⟩

/-- The predicate of the free text of a request, if it asks for any. -/
def Request.textPredicate (s : Scope) (r : Request) : Except SearchError (Option Predicate) :=
  match r.text with
  | none => return none
  | some text => Predicate.ofText? s text

/-- All that is planned for a request apart from the filter and the page. -/
def Request.frame (s : Scope) (settings : Settings) (r : Request) :
    Except SearchError PlanFrame := do
  let text ← r.textPredicate s
  let sort ← s.sortKeys r.sort
  let facets ← s.facets settings.facetCap r.facets
  let statistics ← s.statistics settings.statsCap r.statistics
  Admission.checkNames facets statistics
  return ⟨text, sort, facets, statistics⟩

@[simp] theorem Predicate.withText_none (p : Predicate) : p.withText none = p := by
  rw [withText]

theorem Admission.predicate_eq (a : Admission) (r : Request) :
    a.predicate r = do
      let filter ← a.filter.predicate a.scope
      let text ← r.textPredicate a.scope
      return filter.withText text := by
  rw [predicate, Request.textPredicate]
  cases r.text with
  | none => simp only [pure_bind, Predicate.withText_none]
  | some text => rfl

theorem Request.frame_eq_ok_iff {s : Scope} {settings : Settings} {r : Request} {f : PlanFrame} :
    r.frame s settings = .ok f ↔
      r.textPredicate s = .ok f.text ∧ s.sortKeys r.sort = .ok f.sort ∧
        s.facets settings.facetCap r.facets = .ok f.facets ∧
        s.statistics settings.statsCap r.statistics = .ok f.statistics ∧
        Admission.checkNames f.facets f.statistics = .ok () := by
  simp only [frame, bind_eq_ok_iff, pure_eq_ok_iff]
  constructor
  · rintro ⟨text, htext, sort, hsort, facets, hfacets, statistics, hstatistics, ⟨⟩, hnames, rfl⟩
    exact ⟨htext, hsort, hfacets, hstatistics, hnames⟩
  · rintro ⟨htext, hsort, hfacets, hstatistics, hnames⟩
    exact ⟨_, htext, _, hsort, _, hfacets, _, hstatistics, (), hnames, rfl⟩

/-- **The stages of planning.** -/
theorem Request.planned_eq (c : Catalog) (settings : Settings) (entity : String) (r : Request) :
    r.planned c settings entity = do
      let _ ← c.requireEntity entity
      let page ← settings.page r.page r.size
      let policy ← c.policy entity
      let filter ← Predicate.ofFilter (c.scope settings entity) (r.filter ++ policy)
      let frame ← r.frame (c.scope settings entity) settings
      return frame.planned filter page := by
  simp only [planned, admission, GuardedFilter.secure, Admission.plan, Admission.predicate_eq,
    GuardedFilter.predicate, GuardedFilter.conditions, Text.sameIgnoringAsciiCase_refl, if_true,
    frame, PlanFrame.planned, Catalog.scope, bind_assoc, pure_bind]

section

variable {c : Catalog} {settings : Settings} {entity : String} {r : Request}

theorem Request.planned_eq_ok_iff {p : PlannedSearch} :
    r.planned c settings entity = .ok p ↔
      ∃ root, c.requireEntity entity = .ok root ∧
      ∃ page, settings.page r.page r.size = .ok page ∧
      ∃ policy, c.policy entity = .ok policy ∧
      ∃ filter, Predicate.ofFilter (c.scope settings entity) (r.filter ++ policy) = .ok filter ∧
      ∃ frame, r.frame (c.scope settings entity) settings = .ok frame ∧
        frame.planned filter page = p := by
  simp only [planned_eq, bind_eq_ok_iff, pure_eq_ok_iff]

theorem Settings.page_eq_ok_iff {number size : Option Nat} {page : Settings.Page} :
    settings.page number size = .ok page ↔
      size.getD settings.defaultPageSize ≠ 0 ∧
        size.getD settings.defaultPageSize ≤ settings.maxPageSize ∧
        (⟨number.getD 0, size.getD settings.defaultPageSize⟩ : Settings.Page) = page := by
  simp only [Settings.page]
  split
  case isTrue h =>
    simp only [reduceCtorEq, false_iff]
    omega
  case isFalse h =>
    rw [Except.ok.injEq]
    exact ⟨fun hpage => ⟨by omega, by omega, hpage⟩, fun hpage => hpage.2.2⟩

/-! ### Plans for other pages -/

/-- The same plan for another page. -/
def PlannedSearch.atPage (p : PlannedSearch) (page : Settings.Page) : PlannedSearch :=
  { p with plan := { p.plan with page } }

namespace Request

variable {p : PlannedSearch}

/-- Whatever the page, a request is planned the same. -/
theorem planned_page_eq_ok (h : r.planned c settings entity = .ok p) (number : Option Nat) :
    ({ r with page := number } : Request).planned c settings entity =
      .ok (p.atPage ⟨number.getD 0, r.size.getD settings.defaultPageSize⟩) := by
  obtain ⟨root, hroot, page, hpage, policy, hpolicy, filter, hfilter, frame, hframe, rfl⟩ :=
    planned_eq_ok_iff.mp h
  obtain ⟨hpos, hmax, -⟩ := Settings.page_eq_ok_iff.mp hpage
  exact planned_eq_ok_iff.mpr ⟨root, hroot, _, Settings.page_eq_ok_iff.mpr ⟨hpos, hmax, rfl⟩,
    policy, hpolicy, filter, hfilter, frame, hframe, rfl⟩

theorem pageSize_planned (h : r.planned c settings entity = .ok p) :
    p.plan.page.size = r.size.getD settings.defaultPageSize := by
  obtain ⟨-, -, page, hpage, -, -, filter, -, frame, -, rfl⟩ := planned_eq_ok_iff.mp h
  obtain ⟨-, -, rfl⟩ := Settings.page_eq_ok_iff.mp hpage
  rfl

end Request

end

/-! ### Rules that are in force

Rules decide the policy of an entity and nothing else: names mean the same under any rules. -/

/-- The same entities with other rules in force, in another generation. -/
def Catalog.withRules (c : Catalog) (rules : List AccessRule) (generation : Nat) : Catalog :=
  ⟨c.entities, rules, generation⟩

/-- The same scope with other rules in force. -/
def Scope.withRules (s : Scope) (rules : List AccessRule) (generation : Nat) : Scope :=
  { s with catalog := s.catalog.withRules rules generation }

section

variable (s : Scope) (rules : List AccessRule) (generation : Nat)

mutual

theorem ofNode_withRules (root : Entity) (depth : Nat) : ∀ c : Condition,
    Predicate.ofNode (s.withRules rules generation) root depth c = Predicate.ofNode s root depth c
  | .all parts => by
    rw [Predicate.ofNode, Predicate.ofNode, ofNodes_withRules root (depth + 1) parts]
    rfl
  | .any parts => by
    rw [Predicate.ofNode, Predicate.ofNode, ofNodes_withRules root (depth + 1) parts]
    rfl
  | .not part => by
    rw [Predicate.ofNode, Predicate.ofNode, ofNode_withRules root (depth + 1) part]
    rfl
  | .field _ _ => rfl

theorem ofNodes_withRules (root : Entity) (depth : Nat) : ∀ cs : List Condition,
    Predicate.ofNodes (s.withRules rules generation) root depth cs =
      Predicate.ofNodes s root depth cs
  | [] => rfl
  | c :: cs => by
    rw [Predicate.ofNodes, Predicate.ofNodes, ofNode_withRules root depth c,
      ofNodes_withRules root depth cs]

end

theorem ofFilter_withRules (filter : List Condition) :
    Predicate.ofFilter (s.withRules rules generation) filter = Predicate.ofFilter s filter := by
  simp only [Predicate.ofFilter, ofNodes_withRules]
  rfl

theorem frame_withRules (settings : Settings) (r : Request) :
    r.frame (s.withRules rules generation) settings = r.frame s settings := rfl

end

/-! ### The policy in the plan -/

/-- The predicate of the policy that a scope is under. -/
def Scope.guard (s : Scope) : Except SearchError Predicate := do
  Predicate.ofFilter s (← s.catalog.policy s.entity)

/-- Whether the free text of a request finds a document: the document has one of the words at one of
the paths that free text is looked for at. Blank text finds every document. -/
def Request.textFinds (s : Scope) (r : Request) (d : Document) : Bool :=
  match r.text with
  | none => true
  | some text =>
    (Text.trim text).isEmpty ||
      match s.textPaths with
      | .ok paths => Predicate.hasQuery paths (Text.trim text) d
      | .error _ => false

variable {s : Scope} {r : Request}

theorem Predicate.accepts_fullText (paths : List String) (query : String) (d : Document) :
    (fullText paths query).accepts d = hasQuery paths query d :=
  accepts_of_leaf (fun docs => by rw [rows]) d

theorem Predicate.ofText?_eq_ok_iff {text : String} {p : Option Predicate} :
    ofText? s text = .ok p ↔
      (Text.trim text).isEmpty = true ∧ none = p ∨
        (Text.trim text).isEmpty = false ∧
          ∃ paths, s.textPaths = .ok paths ∧ some (fullText paths (Text.trim text)) = p := by
  simp only [ofText?]
  cases (Text.trim text).isEmpty with
  | true => simp only [if_true, Except.ok.injEq, true_and, Bool.true_eq_false, false_and, or_false]
  | false =>
    simp only [Bool.false_eq_true, if_false, bind_eq_ok_iff, pure_eq_ok_iff, false_and, true_and,
      false_or]

theorem all_accepts_textPredicate {p : Option Predicate} (h : r.textPredicate s = .ok p)
    (d : Document) : p.all (·.accepts d) = r.textFinds s d := by
  rw [Request.textPredicate] at h
  rw [Request.textFinds]
  split at h
  case h_1 =>
    cases h
    rfl
  case h_2 text _ =>
    rcases Predicate.ofText?_eq_ok_iff.mp h with ⟨hblank, rfl⟩ | ⟨hblank, paths, hpaths, rfl⟩
    · rw [hblank]
      rfl
    · rw [hblank, hpaths]
      exact Predicate.accepts_fullText paths (Text.trim text) d

theorem Predicate.accepts_withText (p : Predicate) (text : Option Predicate) (d : Document) :
    (p.withText text).accepts d = (p.accepts d && text.all (·.accepts d)) := by
  cases text with
  | none => simp
  | some q =>
    rw [withText.eq_def]
    split
    case h_1 h => cases h
    case h_2 h =>
      cases h
      simp
    case h_3 h =>
      cases h
      simp

/-- **The policy enters as a conjunct.** The client's filter and the policy have predicates of their
own if they have one together, and a document is found exactly if the policy lets it through and the
client's filter and the free text find it. -/
theorem accepts_planned {user policy : List Condition} {filter : Predicate}
    (hfilter : Predicate.ofFilter s (user ++ policy) = .ok filter) (frame : PlanFrame)
    (page : Settings.Page) :
    ∃ guard, Predicate.ofFilter s policy = .ok guard ∧
      ∃ asked, Predicate.ofFilter s user = .ok asked ∧
      ∀ d, (frame.planned filter page).plan.predicate.accepts d =
        (guard.accepts d && (asked.withText frame.text).accepts d) := by
  obtain ⟨huser, hpolicy⟩ := List.forall_mem_append.mp
    (Predicate.exists_ofFilter_eq_ok_iff.mp ⟨filter, hfilter⟩)
  obtain ⟨guard, hguard⟩ := Predicate.exists_ofFilter_eq_ok_iff.mpr hpolicy
  obtain ⟨asked, hasked⟩ := Predicate.exists_ofFilter_eq_ok_iff.mpr huser
  refine ⟨guard, hguard, asked, hasked, fun d => ?_⟩
  rw [PlanFrame.planned, Predicate.accepts_withText, Predicate.accepts_withText,
    Predicate.accepts_ofFilter hfilter, Predicate.accepts_ofFilter hguard,
    Predicate.accepts_ofFilter hasked, List.all_append]
  rw [← Bool.and_assoc, Bool.and_comm (policy.all _)]

/-! ### The plan of a search for tasks -/

/-- What a search for tasks is seen from. -/
def taskScope : Scope :=
  (CatalogStore.new taskCatalog).current.scope .standard "task"

/-- The predicate of the tasks that Ann owns. -/
def annOwns : Predicate :=
  .all [.term "owner" (.string "ann")]

theorem policy_taskScope :
    taskScope.catalog.policy taskScope.entity = .ok [.one "owner" (.eq (.string "ann"))] := by
  with_unfolding_all rfl

theorem guard_taskScope : taskScope.guard = .ok annOwns := by
  rw [Scope.guard, policy_taskScope]
  rfl

end GuardedSearch
