import GuardedSearch.Proofs.Catalog.History
import GuardedSearch.Proofs.Catalog.Resolution
import GuardedSearch.Proofs.Search.Plan
import GuardedSearch.Proofs.Table

/-!
# What has been counted

A service counts what it answers. Searches, publications and changes of the backend follow one upon
the other, and one search can fail at many stages, the last of them in the backend, after the
conditions of the policy have been counted. The counts are an account of all of this, without gaps:
what stands in them can be read off the list of the searches, and every search is in them once.

The account is kept search by search. Each table is a tally of the searches that have a label for
it, and each search has a label for one of the two tables: under it one more is counted, and the
other table stays as it is.

## Main definitions

* `SearchRecord` — a search, and the service that it was asked of as it was then
* `ServiceOperation`, `ServiceSession` — what is done with a service, and what it comes to
* `Tally` — a table of how often each label occurs in a list
* `Metrics.Accounts` — counts that are an account of searches

## Main results

* `Tally.count`, `Tally.pass` — one more item, with and without a label
* `Metrics.Accounts.record`, `ServiceSession.Accounted.step` — one more search, and one operation
* `metrics_account` — the counts after any operations
-/

namespace GuardedSearch

/-! ### Tallies -/

/-- The table tells how often each label occurs among the items, some of which may have none. -/
structure Tally {α : Type} (label? : α → Option String) (items : List α) (table : Table Nat) :
    Prop where
  sorted : table.Sorted
  counts : ∀ name, (Table.value? name table).getD 0 = items.countP (label? · == some name)
  occurs : ∀ name ∈ Table.names table, ∃ x ∈ items, label? x = some name
  total : Table.total table = items.countP fun x => (label? x).isSome

namespace Tally

variable {α : Type} {label? : α → Option String} {items : List α} {table : Table Nat} {x : α}

theorem empty (label? : α → Option String) : Tally label? [] [] where
  sorted := List.Pairwise.nil
  counts := fun _ => rfl
  occurs := List.forall_mem_nil _
  total := rfl

/-- **One more item with a label.** -/
theorem count (h : Tally label? items table) {name : String} (hx : label? x = some name) :
    Tally label? (items ++ [x]) (Metrics.increment name table) where
  sorted := h.sorted.put _ _
  counts := by
    intro other
    rw [Metrics.increment, Table.value?_put, List.countP_append, ← h.counts, List.countP_singleton,
      hx]
    by_cases hname : name = other
    · simp [hname]
    · simp [hname]
  occurs := by
    intro other hother
    rcases Table.names_put_subset hother with rfl | hother
    · exact ⟨x, List.mem_append_right _ List.mem_cons_self, hx⟩
    · obtain ⟨y, hy, hlabel⟩ := h.occurs other hother
      exact ⟨y, List.mem_append_left _ hy, hlabel⟩
  total := by
    have hput := Table.total_put h.sorted name ((Table.value? name table).getD 0 + 1)
    rw [Metrics.increment, List.countP_append, ← h.total, List.countP_singleton, hx]
    simp only [Option.isSome_some, if_true]
    omega

/-- **One more item without a label.** -/
theorem pass (h : Tally label? items table) (hx : label? x = none) :
    Tally label? (items ++ [x]) table where
  sorted := h.sorted
  counts := by
    intro other
    rw [List.countP_append, ← h.counts, List.countP_singleton, hx]
    rfl
  occurs := by
    intro other hother
    obtain ⟨y, hy, hlabel⟩ := h.occurs other hother
    exact ⟨y, List.mem_append_left _ hy, hlabel⟩
  total := by
    rw [List.countP_append, ← h.total, List.countP_singleton, hx]
    rfl

end Tally

/-! ### Searches that were answered -/

/-- A search, and the service that it was asked of as it was then. -/
structure SearchRecord where
  service : Service
  entity : String
  request : Request

namespace SearchRecord

variable (x : SearchRecord)

/-- The catalog that the search was answered from. -/
def catalog : Catalog :=
  x.service.store.current

/-- What became of the search. -/
def outcome : SearchOutcome :=
  x.request.run x.catalog x.service.settings x.service.backend x.entity

/-- The name of the entity in lower case, if the search succeeded. -/
def success? : Option String :=
  match x.outcome.response with
  | .ok _ => some (Text.lower x.entity)
  | .error _ => none

/-- The kind of the error, if the search failed. -/
def failure? : Option String :=
  match x.outcome.response with
  | .ok _ => none
  | .error e => some e.kind

/-- The search was for an entity that there is, and for a page of a size that there can be. -/
def admitted : Bool :=
  (x.catalog.requireEntity x.entity).isOk &&
    (x.service.settings.page x.request.page x.request.size).isOk

/-- The number of conditions of the policy, if there is one. -/
def policySize : Nat :=
  ((x.catalog.policy x.entity).toOption.getD []).length

/-- The number of conditions that policies have added to the searches that were admitted. -/
def addedConditions (log : List SearchRecord) : Nat :=
  (log.filter admitted).foldl (fun sum x => sum + x.policySize) 0

variable {x}

/-- A search succeeds or fails, and has a label for one of both. -/
theorem isSome_failure?_eq : x.failure?.isSome = !x.success?.isSome := by
  rw [failure?, success?]
  cases x.outcome.response <;> rfl

/-- The policy is counted once a search has been admitted, whatever comes then. -/
theorem policySize_outcome :
    x.outcome.policySize.getD 0 = if x.admitted then x.policySize else 0 := by
  rw [outcome, Request.run, admitted, Request.admission, policySize]
  cases x.catalog.requireEntity x.entity with
  | error e => rfl
  | ok root =>
    cases x.service.settings.page x.request.page x.request.size with
    | error e => rfl
    | ok page =>
      simp only [ok_bind, GuardedFilter.secure]
      cases x.catalog.policy x.entity <;> rfl

/-- What succeeds is about an entity, and counted under its name. -/
theorem exists_entity_of_success (h : x.catalog.metadata.Consistent) {label : String}
    (hx : x.success? = some label) :
    ∃ e ∈ x.catalog.entities, Text.lower e.name = label := by
  rw [success?] at hx
  split at hx
  case h_1 response hresponse =>
    cases hx
    rw [outcome, Request.response_run] at hresponse
    obtain ⟨p, hp, -⟩ := bind_eq_ok_iff.mp hresponse
    obtain ⟨root, hroot, -⟩ := Request.planned_eq_ok_iff.mp hp
    have hentity : x.catalog.entity? x.entity = some root :=
      Scope.root_eq_ok_iff (s := x.catalog.scope x.service.settings x.entity).mp hroot
    obtain ⟨hmem, hname⟩ := (Catalog.entity?_eq_some_iff h).mp hentity
    exact ⟨root, hmem, hname⟩
  case h_2 => cases hx

end SearchRecord

/-! ### Accounts -/

/-- The counts are an account of the searches. -/
structure Metrics.Accounts (m : Metrics) (log : List SearchRecord) : Prop where
  searches : Tally SearchRecord.success? log m.searches
  errors : Tally SearchRecord.failure? log m.errors
  policyConditions : m.policyConditions = SearchRecord.addedConditions log
  generation : m.generation =
    (log.filter (·.success?.isSome)).getLast?.elim 0 (·.catalog.generation)

namespace Metrics.Accounts

variable {m : Metrics} {log : List SearchRecord}

theorem start : Metrics.start.Accounts [] where
  searches := .empty _
  errors := .empty _
  policyConditions := rfl
  generation := rfl

/-- **One more search.** -/
theorem record (h : m.Accounts log) (x : SearchRecord) :
    (m.record x.entity x.catalog.generation x.outcome).Accounts (log ++ [x]) := by
  have hconditions : m.policyConditions + x.outcome.policySize.getD 0 =
      SearchRecord.addedConditions (log ++ [x]) := by
    rw [h.policyConditions, SearchRecord.policySize_outcome, SearchRecord.addedConditions,
      SearchRecord.addedConditions, List.filter_append, List.foldl_append]
    cases hadmitted : x.admitted <;> simp [hadmitted]
  rw [Metrics.record]
  cases hresponse : x.outcome.response with
  | ok response =>
    have hsuccess : x.success? = some (Text.lower x.entity) := by
      rw [SearchRecord.success?, hresponse]
    have hfailure : x.failure? = none := by rw [SearchRecord.failure?, hresponse]
    refine ⟨h.searches.count hsuccess, h.errors.pass hfailure, hconditions, ?_⟩
    simp [hsuccess]
  | error e =>
    have hsuccess : x.success? = none := by rw [SearchRecord.success?, hresponse]
    have hfailure : x.failure? = some e.kind := by rw [SearchRecord.failure?, hresponse]
    refine ⟨h.searches.pass hsuccess, h.errors.count hfailure, hconditions, ?_⟩
    simpa [hsuccess] using h.generation

/-- Every search is counted in one of the tables, and once. -/
theorem total (h : m.Accounts log) :
    Table.total m.searches + Table.total m.errors = log.length := by
  rw [h.searches.total, h.errors.total, List.length_eq_countP_add_countP (·.success?.isSome)]
  refine congrArg _ (List.countP_congr fun x _ => ?_)
  rw [SearchRecord.isSome_failure?_eq]
  simp

end Metrics.Accounts

/-! ### Sessions -/

/-- What can happen to a service. A backend that fails now and then is one that is replaced. -/
inductive ServiceOperation where
  | search (entity : String) (r : Request)
  | store (op : StoreOperation)
  | backend (b : Backend)

namespace ServiceOperation

/-- What is done with the store is allowed. -/
def Allowed : ServiceOperation → Prop
  | store op => op.Allowed
  | search _ _ | backend _ => True

/-- The operation is a search. -/
def isSearch : ServiceOperation → Bool
  | search _ _ => true
  | store _ | backend _ => false

end ServiceOperation

/-- A service, and the searches that it was asked for, in their order. -/
structure ServiceSession where
  service : Service
  log : List SearchRecord

namespace ServiceSession

/-- The session after one operation. -/
def step (s : ServiceSession) : ServiceOperation → ServiceSession
  | .search entity r => ⟨(s.service.search entity r).2, s.log ++ [⟨s.service, entity, r⟩]⟩
  | .store op =>
    { s with service := s.service.withStore (StoreSession.step ⟨s.service.store, []⟩ op).store }
  | .backend b => { s with service := { s.service with backend := b } }

/-- The session after some operations. -/
def run (s : ServiceSession) (ops : List ServiceOperation) : ServiceSession :=
  ops.foldl step s

/-- The service has counted the searches, all of them with consistent catalogs. -/
structure Accounted (s : ServiceSession) : Prop where
  current : s.service.store.current.metadata.Consistent
  log : ∀ x ∈ s.log, x.catalog.metadata.Consistent
  metrics : ∃ m, s.service.metrics = some m ∧ m.Accounts s.log

variable {s : ServiceSession}

/-- **One operation.** -/
theorem Accounted.step (h : s.Accounted) {op : ServiceOperation} (hop : op.Allowed) :
    (s.step op).Accounted := by
  obtain ⟨m, hm, haccounts⟩ := h.metrics
  cases op with
  | search entity r =>
    refine ⟨h.current, List.forall_mem_append.mpr ⟨h.log, ?_⟩, ?_⟩
    · exact List.forall_mem_singleton.mpr h.current
    · refine ⟨_, congrArg (Option.map _) hm, haccounts.record ⟨s.service, entity, r⟩⟩
  | store op =>
    refine ⟨?_, h.log, m, hm, haccounts⟩
    exact StoreSession.consistent_of_run (s := ⟨s.service.store, []⟩) h.current
      (List.forall_mem_singleton.mpr hop)
  | backend b => exact ⟨h.current, h.log, m, hm, haccounts⟩

/-- **Any number of operations.** -/
theorem Accounted.run (h : s.Accounted) {ops : List ServiceOperation}
    (hops : ∀ op ∈ ops, op.Allowed) : (s.run ops).Accounted := by
  induction ops generalizing s with
  | nil => exact h
  | cons op ops ih =>
    obtain ⟨hop, hops⟩ := List.forall_mem_cons.mp hops
    exact ih (h.step hop) hops

theorem length_log_run (s : ServiceSession) (ops : List ServiceOperation) :
    (s.run ops).log.length = s.log.length + ops.countP ServiceOperation.isSearch := by
  induction ops generalizing s with
  | nil => rfl
  | cons op ops ih =>
    refine (ih (s.step op)).trans ?_
    cases op with
    | search entity r =>
      rw [List.countP_cons_of_pos rfl, step, List.length_append, List.length_singleton]
      omega
    | store op => rfl
    | backend b => rfl

end ServiceSession

/-- **The counts account for every search.** Whatever is done with a service that begins to count:
there is a count for each search, among the successes or among the errors; under a name stand the
successful searches whose entity has this name in lower case, and no names occur but those of
entities of the catalogs that searches were answered from; under a kind stand the searches that
failed with an error of it; the conditions are those of the policies of all searches that were
admitted, and there is a policy for each; and the generation is that of the catalog of the last
success. -/
theorem metrics_account {v : Service} (hv : v.metrics = some .start)
    (h : v.store.current.metadata.Consistent) {ops : List ServiceOperation}
    (hops : ∀ op ∈ ops, op.Allowed) :
    let s := ServiceSession.run ⟨v, []⟩ ops
    ∃ m, s.service.metrics = some m ∧
      s.log.length = ops.countP ServiceOperation.isSearch ∧
      Table.total m.searches + Table.total m.errors = s.log.length ∧
      ((Table.names m.searches).Nodup ∧
        (∀ label, (Table.value? label m.searches).getD 0 =
          s.log.countP (·.success? == some label)) ∧
        ∀ label ∈ Table.names m.searches, ∃ x ∈ s.log, x.success? = some label ∧
          ∃ e ∈ x.catalog.entities, Text.lower e.name = label) ∧
      ((Table.names m.errors).Nodup ∧
        ∀ kind, (Table.value? kind m.errors).getD 0 =
          s.log.countP (·.failure? == some kind)) ∧
      (m.policyConditions = SearchRecord.addedConditions s.log ∧
        ∀ x ∈ s.log, ∃ policy, x.catalog.policy x.entity = .ok policy ∧
          x.policySize = policy.length) ∧
      m.generation = (s.log.filter (·.success?.isSome)).getLast?.elim 0 (·.catalog.generation) := by
  intro s
  have hs : s.Accounted := ServiceSession.Accounted.run
    ⟨h, List.forall_mem_nil _, .start, hv, Metrics.Accounts.start⟩ hops
  obtain ⟨m, hm, haccounts⟩ := hs.metrics
  refine ⟨m, hm, ?_, haccounts.total, ⟨haccounts.searches.sorted.nodup, haccounts.searches.counts,
    ?_⟩, ⟨haccounts.errors.sorted.nodup, haccounts.errors.counts⟩,
    ⟨haccounts.policyConditions, ?_⟩, haccounts.generation⟩
  · rw [ServiceSession.length_log_run, List.length_nil, Nat.zero_add]
  · intro label hlabel
    obtain ⟨x, hx, hsuccess⟩ := haccounts.searches.occurs label hlabel
    exact ⟨x, hx, hsuccess, SearchRecord.exists_entity_of_success (hs.log x hx) hsuccess⟩
  · intro x hx
    obtain ⟨policy, hpolicy⟩ := Catalog.exists_policy_of_consistent (hs.log x hx) x.entity
    exact ⟨policy, hpolicy, by rw [SearchRecord.policySize, hpolicy]; rfl⟩

/-! ### Tasks -/

/-- A service for tasks that begins to count. -/
def countingService : Service :=
  ⟨.new taskCatalog, .ofDocuments [task "ann", task "bob"], .standard, some .start⟩

/-- A search for tasks under another spelling, one that fails after it has been admitted, and one in
a catalog that has no tasks any more. -/
def taskOperations : List ServiceOperation :=
  [.search "TASK" .blank, .search "Task" { Request.blank with facets := ["missing"] },
    .store (.publish .empty), .search "task" .blank]

/-- Of three searches for tasks one is counted as a success, in the first generation; the rule for
tasks has added its condition to two. -/
theorem metrics_account_tasks :
    ∃ m, (ServiceSession.run ⟨countingService, []⟩ taskOperations).service.metrics = some m ∧
      Table.total m.searches + Table.total m.errors = 3 ∧
      (Table.value? "task" m.searches).getD 0 = 1 ∧
      (Table.value? "field_not_found" m.errors).getD 0 = 1 ∧
      m.policyConditions = 2 ∧ m.generation = 1 := by
  have hops : ∀ op ∈ taskOperations, op.Allowed := by
    simp only [taskOperations, List.forall_mem_cons]
    exact ⟨trivial, trivial, .empty, trivial, List.forall_mem_nil _⟩
  have hconsistent : taskCatalog.metadata.Consistent :=
    Catalog.consistent_of_build build_taskMetadata
  obtain ⟨m, hm, hlength, htotal, ⟨-, hsearches, -⟩, ⟨-, herrors⟩, ⟨hconditions, -⟩, hgeneration⟩ :=
    metrics_account (v := countingService) rfl hconsistent hops
  refine ⟨m, hm, htotal.trans hlength, (hsearches "task").trans ?_,
    (herrors "field_not_found").trans ?_, hconditions.trans ?_, hgeneration.trans ?_⟩ <;>
  decide +kernel

end GuardedSearch
