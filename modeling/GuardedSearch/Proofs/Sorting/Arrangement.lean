import GuardedSearch.Proofs.Sorting.Order
import GuardedSearch.RowSet
import Mathlib.Data.List.FinRange

/-!
# How hits are arranged

The comparison of two documents picks a value of each for a key and compares the two. What it is to
come before another document can be said without it: a document that has a value comes before one
that has none, whatever the direction, and before one whose own first value lies behind its own. The
first key by which either document comes before the other one decides.

Sorting puts no document behind one that it comes before. That alone does not say where documents
go of which neither comes before the other. They keep the order of their rows, so there is only one
list that the rows that match can be sorted to.

## Main definitions

* `SortKey.Leads` — the value of a document that counts for a key
* `SortKey.Before`, `SortKey.BeforeBy` — what it is to come before a document, by one key and by
  several

## Main results

* `pairwise_mergeSort_of_pairwise` — a stable sort keeps the order of items it does not tell apart
* `SortKey.compareBy_eq_lt_iff` — the comparison is that of the first values, key by key
* `SortKey.pairwise_sort`, `SortKey.pair_sublist_sort` — the order of documents that are sorted
* `SortKey.sort_arranges` — the list that the rows that match are sorted to
-/

namespace GuardedSearch

open Std (OrientedCmp TransCmp)

/-! ### Stable sorting -/

section

variable {α : Type} {le : α → α → Bool}

/-- **A stable sort keeps the order of items that it does not tell apart.** In the sorted list every
item may stand before those behind it. If they may as well stand before it, they were behind it in
the list that was sorted, and what held of the two there holds still. -/
theorem pairwise_mergeSort_of_pairwise
    (trans : ∀ a b c, le a b = true → le b c = true → le a c = true)
    (total : ∀ a b, (le a b || le b a) = true) {R : α → α → Prop} {l : List α}
    (h : l.Pairwise R) :
    (l.mergeSort le).Pairwise fun a b => le a b = true ∧ (le b a = true → R a b) := by
  induction l with
  | nil => simp
  | cons a l ih =>
    obtain ⟨hfirst, hrest⟩ := List.pairwise_cons.mp h
    obtain ⟨before, after, hsort, hcons, hbefore, hafter⟩ := exists_mergeSort_cons trans total a l
    have hpair := ih hrest
    rw [hsort] at hpair
    obtain ⟨hpairBefore, hpairAfter, hacross⟩ := List.pairwise_append.mp hpair
    rw [hcons]
    refine List.pairwise_append.mpr
      ⟨hpairBefore, List.pairwise_cons.mpr ⟨fun c hc => ?_, hpairAfter⟩, fun b hb c hc => ?_⟩
    · rw [hafter] at hc
      obtain ⟨hmem, hac⟩ := List.mem_filter.mp hc
      exact ⟨hac, fun _ => hfirst c (List.mem_mergeSort.mp hmem)⟩
    · rcases List.mem_cons.mp hc with rfl | hc
      · -- what was sorted before the new item cannot stand behind it
        rw [hbefore] at hb
        have hnot : le c b = false := by simpa using (List.mem_filter.mp hb).2
        have hbc : le b c = true := by simpa [hnot] using total c b
        exact ⟨hbc, fun hcb => absurd hcb (by simp [hnot])⟩
      · exact hacross b hb c hc

theorem isLE_of_ne_lt {cmp : α → α → Ordering} [OrientedCmp cmp] {a b : α} (h : cmp b a ≠ .lt) :
    (cmp a b).isLE = true :=
  Ordering.isLE_iff_ne_gt.mpr (mt OrientedCmp.gt_iff_lt.mp h)

/-- Going through a list with a choice of the better one of two ends with one that is at least as
good as all of them. -/
theorem foldl_mem_and_isLE (cmp : α → α → Ordering) [TransCmp cmp] {better : α → α → α}
    (hbetter : ∀ a b, (better a b = a ∨ better a b = b) ∧
      (cmp (better a b) a).isLE = true ∧ (cmp (better a b) b).isLE = true)
    (a : α) (rest : List α) :
    rest.foldl better a ∈ a :: rest ∧
      ∀ b ∈ a :: rest, (cmp (rest.foldl better a) b).isLE = true := by
  induction rest generalizing a with
  | nil =>
    refine ⟨List.mem_singleton_self a, fun b hb => ?_⟩
    obtain rfl := List.mem_singleton.mp hb
    exact Std.ReflCmp.isLE_rfl
  | cons b rest ih =>
    obtain ⟨hmem, hle⟩ := ih (better a b)
    obtain ⟨hchoice, hlea, hleb⟩ := hbetter a b
    rw [List.foldl_cons]
    refine ⟨?_, fun c hc => ?_⟩
    · rcases List.mem_cons.mp hmem with h | h
      · rw [h]
        rcases hchoice with hc | hc
        · simp [hc]
        · simp [hc]
      · exact List.mem_cons_of_mem a (List.mem_cons_of_mem b h)
    · have hfirst := hle (better a b) List.mem_cons_self
      rcases List.mem_cons.mp hc with rfl | hc
      · exact TransCmp.isLE_trans hfirst hlea
      · rcases List.mem_cons.mp hc with rfl | hc
        · exact TransCmp.isLE_trans hfirst hleb
        · exact hle c (List.mem_cons_of_mem _ hc)

end

/-! ### Values that count -/

namespace Json

theorem mem_and_isLE_of_least? {vs : List Json} {v : Json} (h : least? vs = some v) :
    v ∈ vs ∧ ∀ w ∈ vs, (order v w).isLE = true := by
  cases vs with
  | nil => cases h
  | cons u rest =>
    obtain rfl := Option.some.inj h
    refine foldl_mem_and_isLE order (fun a b => ?_) u rest
    by_cases hlt : order b a = .lt
    · simp [hlt, Std.ReflCmp.isLE_rfl]
    · simp [hlt, Std.ReflCmp.isLE_rfl, isLE_of_ne_lt hlt]

theorem mem_and_isLE_of_greatest? {vs : List Json} {v : Json} (h : greatest? vs = some v) :
    v ∈ vs ∧ ∀ w ∈ vs, (order w v).isLE = true := by
  cases vs with
  | nil => cases h
  | cons u rest =>
    obtain rfl := Option.some.inj h
    refine foldl_mem_and_isLE (fun v w => order w v) (fun a b => ?_) u rest
    by_cases hlt : order b a = .lt
    · simp [hlt, Std.ReflCmp.isLE_rfl]
    · simp [hlt, Std.ReflCmp.isLE_rfl, isLE_of_ne_lt hlt]

end Json

namespace SortKey

/-- The values that a document can be ordered by. Objects are not among them. -/
def values (k : SortKey) (d : Document) : List Json :=
  (Json.fieldValues k.path d.source).filter fun v => !v.isObject

/-- The value counts for the key: none of the document's values lies before it in the direction of
the key. In an ascending order it is a smallest one, in a descending order a greatest one. -/
def Leads (k : SortKey) (d : Document) (v : Json) : Prop :=
  v ∈ k.values d ∧ ∀ w ∈ k.values d, (k.direction.order v w).isLE = true

/-- One document comes before another by a key: it has a value that counts, which lies before that
of the other document, if the other one has any. -/
def Before (k : SortKey) (a b : Document) : Prop :=
  ∃ v, k.Leads a v ∧ ∀ w, k.Leads b w → k.direction.order v w = .lt

/-- One document comes before another by a list of keys: it does so by a key, and by no key before
that does either of them come before the other. -/
def BeforeBy : List SortKey → Document → Document → Prop
  | [], _, _ => False
  | k :: keys, a, b => k.Before a b ∨ ¬ k.Before b a ∧ BeforeBy keys a b

theorem value?_eq_none_iff {k : SortKey} {d : Document} : k.value? d = none ↔ k.values d = [] := by
  rw [value?, values]
  cases k.direction with
  | ascending => cases (Json.fieldValues k.path d.source).filter _ <;> simp [Json.least?]
  | descending => cases (Json.fieldValues k.path d.source).filter _ <;> simp [Json.greatest?]

/-- The value that the comparison picks is one that counts. -/
theorem leads_of_value? {k : SortKey} {d : Document} {v : Json} (h : k.value? d = some v) :
    k.Leads d v := by
  obtain ⟨path, direction⟩ := k
  cases direction with
  | ascending => exact Json.mem_and_isLE_of_least? h
  | descending => exact Json.mem_and_isLE_of_greatest? h

theorem exists_leads_iff {k : SortKey} {d : Document} :
    (∃ v, k.Leads d v) ↔ ∃ v, k.value? d = some v := by
  constructor
  · rintro ⟨v, hv, -⟩
    refine Option.ne_none_iff_exists'.mp fun hnone => ?_
    rw [value?_eq_none_iff.mp hnone] at hv
    cases hv
  · rintro ⟨v, hv⟩
    exact ⟨v, leads_of_value? hv⟩

/-! ### Documents -/

/-- By one key, the comparison tells which document comes before the other. -/
theorem compare_eq_lt_iff {k : SortKey} {a b : Document} : k.compare a b = .lt ↔ k.Before a b := by
  rw [compare_eq_noneLast]
  constructor
  · intro h
    cases hv : k.value? a with
    | none =>
      rw [hv] at h
      cases hw : k.value? b <;> rw [hw] at h <;> cases h
    | some v =>
      refine ⟨v, leads_of_value? hv, fun w hw => ?_⟩
      obtain ⟨w', hw'⟩ := exists_leads_iff.mp ⟨w, hw⟩
      rw [hv, hw'] at h
      exact TransCmp.lt_of_lt_of_isLE h ((leads_of_value? hw').2 w hw.1)
  · rintro ⟨v, hv, hbefore⟩
    obtain ⟨v', hv'⟩ := exists_leads_iff.mp ⟨v, hv⟩
    rw [hv']
    cases hw : k.value? b with
    | none => rfl
    | some w =>
      have hle : (k.direction.order v' v).isLE = true := (leads_of_value? hv').2 v hv.1
      have hlt : k.direction.order v w = .lt := hbefore w (leads_of_value? hw)
      have h : k.direction.order v' w = .lt := TransCmp.lt_of_isLE_of_lt hle hlt
      exact h

/-- By a list of keys, the comparison tells which document comes before the other. -/
theorem compareBy_eq_lt_iff {keys : List SortKey} {a b : Document} :
    compareBy keys a b = .lt ↔ BeforeBy keys a b := by
  induction keys with
  | nil => exact ⟨nofun, nofun⟩
  | cons k keys ih =>
    have hgt : k.compare a b = .gt ↔ k.Before b a :=
      OrientedCmp.gt_iff_lt.trans compare_eq_lt_iff
    rw [compareBy_cons, compareLex, BeforeBy, ← compare_eq_lt_iff, ← hgt, ← ih]
    cases k.compare a b <;> simp [Ordering.then]

theorem le_eq_false_iff {keys : List SortKey} {a b : Document} :
    le keys a b = false ↔ BeforeBy keys b a := by
  have hgt : compareBy keys a b = .gt ↔ compareBy keys b a = .lt := OrientedCmp.gt_iff_lt
  rw [← compareBy_eq_lt_iff, ← hgt, le]
  cases compareBy keys a b <;> simp

theorem le_iff {keys : List SortKey} {a b : Document} :
    le keys a b = true ↔ ¬ BeforeBy keys b a := by
  rw [← le_eq_false_iff, Bool.not_eq_false]

/-- No document is sorted behind one that it comes before. -/
theorem pairwise_sort (keys : List SortKey) (docs : List Document) :
    (sort keys docs).Pairwise fun a b => ¬ BeforeBy keys b a :=
  (List.pairwise_mergeSort (le_trans keys) (le_total keys) docs).imp le_iff.mp

/-- Two documents of which the second one does not come before the first keep their order. -/
theorem pair_sublist_sort {keys : List SortKey} {docs : List Document} {a b : Document}
    (hab : ¬ BeforeBy keys b a) (h : [a, b].Sublist docs) : [a, b].Sublist (sort keys docs) :=
  List.pair_sublist_mergeSort (le_trans keys) (le_total keys) (le_iff.mpr hab) h

end SortKey

/-! ### Rows -/

/-- The rows of a list that belong to a set, in their order. -/
def RowSet.rowsOf {α : Type} (s : RowSet) (items : List α) : List (Fin items.length) :=
  (List.finRange items.length).filter fun row => s.has row

theorem RowSet.map_get_rowsOf {α : Type} (s : RowSet) (items : List α) :
    (s.rowsOf items).map items.get = s.select items := by
  have hrows : items.zipIdx =
      (List.finRange items.length).map fun row => (items.get row, row.val) := by
    apply List.ext_getElem <;> simp
  rw [select, hrows, List.filter_map, List.map_map, rowsOf]
  rfl

/-- **How hits are arranged.** The comparison that sorting uses is total and transitive, and it says
of two documents, key by key, which of them comes before the other. The rows of any set are sorted
to a list of all these rows, in which none stands behind another whose document it comes before; and
rows of which neither comes before the other stand in their own order, as all rows do if there is no
key. -/
theorem SortKey.sort_arranges (keys : List SortKey) (docs : List Document) (found : RowSet) :
    (∀ a b, (compareBy keys a b).isLE = true ∨ (compareBy keys b a).isLE = true) ∧
      (∀ a b c, (compareBy keys a b).isLE = true → (compareBy keys b c).isLE = true →
        (compareBy keys a c).isLE = true) ∧
      (∀ a b, compareBy keys a b = .lt ↔ BeforeBy keys a b) ∧
      (∃ rows : List (Fin docs.length), rows.Perm (found.rowsOf docs) ∧
        sort keys (found.select docs) = rows.map docs.get ∧
        rows.Pairwise fun i j =>
          ¬ BeforeBy keys docs[j] docs[i] ∧ (¬ BeforeBy keys docs[i] docs[j] → i < j)) ∧
      sort [] (found.select docs) = (found.rowsOf docs).map docs.get := by
  refine ⟨fun a b => ?_, fun a b c => le_trans keys a b c, fun a b => compareBy_eq_lt_iff, ?_, ?_⟩
  · simpa [le] using le_total keys a b
  · -- the rows are sorted as their documents are
    let leRow (i j : Fin docs.length) : Bool := le keys docs[i] docs[j]
    have hsort : ((found.rowsOf docs).mergeSort leRow).map docs.get =
        sort keys (found.select docs) := by
      rw [← RowSet.map_get_rowsOf]
      exact List.map_mergeSort fun i _ j _ => rfl
    have hrows : (found.rowsOf docs).Pairwise (· < ·) :=
      (List.pairwise_lt_finRange docs.length).filter _
    have htrans : ∀ i j l, leRow i j = true → leRow j l = true → leRow i l = true :=
      fun i j l => le_trans keys docs[i] docs[j] docs[l]
    have htotal : ∀ i j, (leRow i j || leRow j i) = true :=
      fun i j => le_total keys docs[i] docs[j]
    have hstable := pairwise_mergeSort_of_pairwise htrans htotal hrows
    refine ⟨_, List.mergeSort_perm _ leRow, hsort.symm, hstable.imp fun h => ⟨?_, fun hnot => ?_⟩⟩
    · exact le_iff.mp h.1
    · exact h.2 (le_iff.mpr hnot)
  · rw [RowSet.map_get_rowsOf]
    exact List.mergeSort_of_pairwise (List.pairwise_of_forall fun _ _ => rfl)

end GuardedSearch
