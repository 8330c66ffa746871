import GuardedSearch.Proofs.Double.Reading
import GuardedSearch.Proofs.Search.Aggregations
import GuardedSearch.Proofs.Statistics
import Mathlib.Data.Finset.Dedup

/-!
# Exact and approximate statistics

Statistics are made of a distribution that is cut off behind a number of buckets. What they leave
out they cannot describe; but they say so. They call themselves approximate if and only if something
has been cut off, that is, if the documents found hold more texts than there may be buckets. If they
do not, they have seen all there is, and their count can be said without buckets: each document
counts once for each of the texts that it holds of a number.

A bucket keeps the first value that is found with its text. Which one that is does not matter here:
whether a single value denotes a number shows in its text.

## Main definitions

* `Document.numericTexts`, `Distribution.numericTexts` — the texts of the values at a path that
  denote numbers, of one document and of a list of documents

## Main results

* `Literal.isSome_toDouble?_of_ofJson?` — whether a value denotes a number shows in its text
* `Distribution.other_ofDocuments_eq_zero_iff` — when a distribution leaves nothing out
* `Distribution.count_ofDocuments` — what is counted in that case
* `statistics_approximate_iff_cut` — statistics are approximate exactly if they have to be
-/

namespace GuardedSearch

/-! ### Counting pairs -/

section

variable {α β : Type}

theorem sum_map_ite_eq_countP (p : α → Bool) (l : List α) :
    (l.map fun a => if p a then 1 else 0).sum = l.countP p := by
  induction l with
  | nil => rfl
  | cons a l ih => rw [List.map_cons, List.sum_cons, ih, List.countP_cons, Nat.add_comm]

/-- Pairs of a relation can be counted from either side. -/
theorem sum_map_countP_comm (r : α → β → Bool) (as : List α) (bs : List β) :
    (as.map fun a => bs.countP fun b => r a b).sum =
      (bs.map fun b => as.countP fun a => r a b).sum := by
  induction as with
  | nil => simp
  | cons a as ih =>
    simp only [List.countP_cons]
    rw [List.map_cons, List.sum_cons, ih, List.sum_map_add, sum_map_ite_eq_countP, Nat.add_comm]

/-- In a list without repetitions, what is in a shorter list is counted once. -/
theorem countP_mem_eq_card [DecidableEq α] {as bs : List α} (hnodup : as.Nodup)
    (hsub : ∀ b ∈ bs, b ∈ as) : (as.countP fun a => a ∈ bs) = bs.toFinset.card := by
  rw [List.countP_eq_length_filter, ← List.toFinset_card_of_nodup (hnodup.filter _)]
  refine congrArg Finset.card (Finset.ext fun a => ?_)
  rw [List.mem_toFinset, List.mem_toFinset, List.mem_filter, decide_eq_true_iff]
  exact and_iff_right_of_imp (hsub a)

end

/-! ### Texts of numbers -/

/-- Whether a single value denotes a number shows in its text. -/
theorem Literal.isSome_toDouble?_of_ofJson? {j : Json} {l : Literal} (h : ofJson? j = some l) :
    l.toDouble?.isSome = (textDouble? l.plain).isSome := by
  cases j with
  | null => cases h
  | array items => cases h
  | object members => cases h
  | bool b =>
    obtain rfl : bool b = l := Option.some.inj h
    cases b <;> decide
  | string s =>
    obtain rfl : string s = l := Option.some.inj h
    rfl
  | number n =>
    obtain rfl : ofNumber n = l := Option.some.inj h
    unfold ofNumber
    split
    case h_1 i hi =>
      obtain ⟨x, hx, -⟩ := place?_textDouble?_toString i
      have hread : textDouble? (int i).plain = some x := hx
      rw [hread, toDouble?, Option.isSome_some, Option.isSome_some]
    case h_2 =>
      have hread : textDouble? (double n.toDouble).plain = some n.toDouble :=
        textDouble?_toPlain n.toDouble
      rw [hread, toDouble?]

namespace Document

/-- The texts of the single values at a path that denote numbers. -/
def numericTexts (path : String) (d : Document) : List String :=
  (((Json.fieldValues path d.source).filterMap Literal.ofJson?).filter fun l =>
    l.toDouble?.isSome).map Literal.plain

theorem numericTexts_eq_filter (path : String) (d : Document) :
    d.numericTexts path = (d.texts path).filter fun t => (Literal.textDouble? t).isSome := by
  rw [numericTexts, texts, List.filter_map]
  refine congrArg _ (List.filter_congr fun l hl => ?_)
  obtain ⟨j, -, hj⟩ := List.mem_filterMap.mp hl
  exact Literal.isSome_toDouble?_of_ofJson? hj

end Document

/-! ### Statistics of a distribution -/

/-- NaN or not, a bucket counts if its value is read as a double. -/
theorem Statistics.count_ofDistribution_eq_countOf (d : Distribution) : (ofDistribution d).count =
    Bucket.countOf (fun b => b.value.toDouble?.isSome) d.buckets := by
  have hone : ∀ b : Bucket, (if b.isCounted then b.count else 0) +
      (if b.isNaN then b.count else 0) = if b.value.toDouble?.isSome then b.count else 0 := by
    intro b
    cases b.kind with
    | number x hx hcounted hnumber hisCounted hisNaN =>
      simp [hisCounted, hisNaN, (counted?_eq_some_iff.mp hcounted).1]
    | nan hcounted hnumber hisCounted hisNaN =>
      simp [hisCounted, hisNaN, (counted?_eq_some_iff.mp hcounted).1]
    | other hcounted hnumber hisCounted hisNaN =>
      rcases counted?_eq_none_iff.mp hcounted with hvalue | hcount
      · simp [hisCounted, hisNaN, hvalue]
      · simp [hcount]
  rw [count_ofDistribution]
  induction d.buckets using List.reverseRecOn with
  | nil => rfl
  | append_singleton bs b ih =>
    rw [Bucket.countOf_concat, Bucket.countOf_concat, Bucket.countOf_concat, ← ih, ← hone]
    omega

namespace Distribution

theorem totalCount_eq_sum (bs : List Bucket) : totalCount bs = (bs.map Bucket.count).sum := by
  rw [totalCount, List.sum, List.foldr_map]

variable (path : String) (docs : List Document)

theorem length_allBuckets : (allBuckets path docs).length = (rankedTexts path docs).length := by
  rw [rankedTexts, List.length_map, allBuckets, List.length_map, rankedBuckets]

/-- A distribution has as many buckets to be cut off as documents hold texts. -/
theorem length_rankedTexts :
    (rankedTexts path docs).length = (docs.flatMap (Document.texts path)).toFinset.card := by
  rw [← List.toFinset_card_of_nodup (nodup_rankedTexts path docs)]
  refine congrArg Finset.card (Finset.ext fun t => ?_)
  rw [List.mem_toFinset, List.mem_toFinset, (isRanking_rankedTexts path docs).mem_iff,
    List.mem_flatMap]

variable {path docs}

/-- What is in a bucket is stored in a document: so the bucket counts one at least, and whether its
value denotes a number shows in its text. -/
theorem stored_of_mem_rankedBuckets {b : TextedBucket} (h : b ∈ rankedBuckets path docs) :
    b.bucket.count ≠ 0 ∧
      b.bucket.value.toDouble?.isSome = (Literal.textDouble? b.text).isSome := by
  obtain ⟨hplain, hcount⟩ := bucket_of_mem h
  rw [rankedBuckets, List.mem_mergeSort, TextedBucket.ofValues] at h
  obtain ⟨v, hv, rfl⟩ := List.mem_map.mp h
  obtain ⟨d, hd, hvd⟩ := List.mem_flatMap.mp ((eraseDupsBy_sublist _ _).subset hv)
  obtain ⟨l, hl, rfl⟩ := List.mem_map.mp ((eraseDupsBy_sublist _ _).subset hvd)
  obtain ⟨j, -, hj⟩ := List.mem_filterMap.mp hl
  refine ⟨?_, Literal.isSome_toDouble?_of_ofJson? hj⟩
  rw [hcount, ← Nat.pos_iff_ne_zero, Document.holders, List.countP_pos_iff]
  exact ⟨d, hd, decide_eq_true (List.mem_map_of_mem hl)⟩

/-- **A distribution leaves nothing out exactly if there are no more texts than buckets.** -/
theorem other_ofDocuments_eq_zero_iff (path : String) (cap : Nat) (docs : List Document) :
    (ofDocuments path cap docs).other = 0 ↔
      (docs.flatMap (Document.texts path)).toFinset.card ≤ cap := by
  rw [← length_rankedTexts, ← length_allBuckets, ← List.drop_eq_nil_iff, ofDocuments, cut,
    totalCount_eq_sum, List.sum_eq_zero_iff_forall_eq_nat, List.forall_mem_map]
  constructor
  · intro hzero
    refine List.eq_nil_iff_forall_not_mem.mpr fun b hb => ?_
    obtain ⟨tb, htb, rfl⟩ := List.mem_map.mp (List.mem_of_mem_drop hb)
    exact (stored_of_mem_rankedBuckets htb).1 (hzero _ hb)
  · intro hnil
    rw [hnil]
    exact List.forall_mem_nil _

/-- The texts of numbers that documents hold at a path, each once. -/
def numericTexts (path : String) (docs : List Document) : List String :=
  (rankedTexts path docs).filter fun t => (Literal.textDouble? t).isSome

/-- The buckets of numbers count the documents that hold their texts. -/
theorem countOf_allBuckets (path : String) (docs : List Document) :
    Bucket.countOf (fun b => b.value.toDouble?.isSome) (allBuckets path docs) =
      ((numericTexts path docs).map (Document.holders path docs)).sum := by
  have hall : allBuckets path docs = (rankedBuckets path docs).map TextedBucket.bucket := rfl
  rw [hall, Bucket.countOf, numericTexts, rankedTexts, List.filter_map, List.filter_map,
    List.map_map, List.map_map]
  have hfilter : (rankedBuckets path docs).filter (fun b => b.bucket.value.toDouble?.isSome) =
      (rankedBuckets path docs).filter fun b => (Literal.textDouble? b.text).isSome :=
    List.filter_congr fun b hb => (stored_of_mem_rankedBuckets hb).2
  simp only [Function.comp_def, hfilter]
  refine congrArg List.sum (List.map_congr_left fun b hb => ?_)
  exact (bucket_of_mem (List.mem_of_mem_filter hb)).2

/-- A document holds as many texts of numbers as there are among all of them. -/
theorem countP_numericTexts {d : Document} (hd : d ∈ docs) :
    ((numericTexts path docs).countP fun t => t ∈ d.texts path) =
      (d.numericTexts path).toFinset.card := by
  have hnodup : (numericTexts path docs).Nodup := (nodup_rankedTexts path docs).filter _
  rw [← countP_mem_eq_card hnodup]
  · refine List.countP_congr fun t ht => ?_
    have hnumeric := (List.mem_filter.mp ht).2
    simp only [d.numericTexts_eq_filter, List.mem_filter, hnumeric, and_true]
  · intro t ht
    rw [d.numericTexts_eq_filter, List.mem_filter] at ht
    have hranked := ((isRanking_rankedTexts path docs).mem_iff t).mpr ⟨d, hd, ht.1⟩
    exact List.mem_filter.mpr ⟨hranked, ht.2⟩

/-- **If a distribution leaves nothing out, each document is counted once for each of the texts
that it holds of a number.** -/
theorem count_ofDocuments {path : String} {cap : Nat} {docs : List Document}
    (h : (docs.flatMap (Document.texts path)).toFinset.card ≤ cap) :
    (Statistics.ofDistribution (ofDocuments path cap docs)).count =
      (docs.map fun d => (d.numericTexts path).toFinset.card).sum := by
  have hbuckets : (ofDocuments path cap docs).buckets = allBuckets path docs := by
    refine List.take_of_length_le ?_
    rw [length_allBuckets, length_rankedTexts]
    exact h
  have hholders : Document.holders path docs = fun t => docs.countP fun d => t ∈ d.texts path :=
    funext fun _ => rfl
  calc (Statistics.ofDistribution (ofDocuments path cap docs)).count
      = Bucket.countOf (fun b => b.value.toDouble?.isSome) (allBuckets path docs) := by
        rw [Statistics.count_ofDistribution_eq_countOf, hbuckets]
    _ = ((numericTexts path docs).map (Document.holders path docs)).sum :=
        countOf_allBuckets path docs
    _ = (docs.map fun d => (numericTexts path docs).countP fun t => t ∈ d.texts path).sum := by
        rw [hholders, sum_map_countP_comm]
    _ = (docs.map fun d => (d.numericTexts path).toFinset.card).sum :=
        congrArg List.sum (List.map_congr_left fun d hd => countP_numericTexts hd)

end Distribution

/-! ### Searches -/

/-- **Statistics are approximate exactly if they have to be, and exact otherwise.** If a search
succeeds, among fewer documents than there are numbers for rows, each key that it was asked
statistics of stands for values at a path. Its statistics are approximate if and only if all
documents found, on whatever page, hold more texts there than the settings allow buckets. If they
are not, they count each of these documents once for each of the texts that it holds of a value that
denotes a number. -/
theorem statistics_approximate_iff_cut (store : CatalogStore) (settings : Settings)
    (metrics : Option Metrics) (docs : List Document) (_hdocs : docs.length < RowSet.capacity)
    (entity : String) (r : Request) {response : Response}
    (h : ((Service.ofDocuments store settings metrics docs).search entity r).1 = .ok response) :
    let s := store.current.scope settings entity
    let found := docs.filter (r.finds s)
    ∀ key ∈ r.statistics, ∃ t, s.target key = .ok t ∧
      ∃ stats, Table.value? key response.statistics = some stats ∧
        (stats.approximate = true ↔
          settings.statsCap < (found.flatMap (Document.texts t.paths.exact)).toFinset.card) ∧
        (stats.approximate = false →
          stats.count = (found.map fun d => (d.numericTexts t.paths.exact).toFinset.card).sum) := by
  intro s found key hkey
  obtain ⟨p, hp, rfl⟩ := Service.search_eq_ok_iff.mp h
  obtain ⟨t, ht, hvalue⟩ := Request.value?_statistics hp hkey docs
  have hcut := Distribution.other_ofDocuments_eq_zero_iff t.paths.exact settings.statsCap found
  have happroximate := Statistics.approximate_ofDistribution
    (.ofDocuments t.paths.exact settings.statsCap found)
  refine ⟨t, ht, _, hvalue, ?_, fun hexact => ?_⟩
  · rw [happroximate, Nat.pos_iff_ne_zero, ne_eq, hcut, not_le]
  · refine Distribution.count_ofDocuments (hcut.mp ?_)
    rw [← Nat.le_zero, ← not_lt, ← happroximate, hexact]
    exact Bool.false_ne_true

/-- The settings that allow the statistics of a key one bucket. -/
def oneBucket : Settings :=
  { Settings.standard with statsCap := 1 }

/-- The request for the statistics of the two numbers of a product. -/
def numbersRequest : Request :=
  { Request.blank with statistics := ["price", "stats_price"] }

/-- The plan of the request for the statistics of the two numbers of a product. -/
def numbersPlan : PlannedSearch :=
  PlanFrame.planned ⟨none, [], [], [⟨"stats_price", "price", "price", some .double, 1⟩,
    ⟨"stats_stats_price", "stats_price", "stats_price", some .double, 1⟩]⟩ .matchAll ⟨0, 10⟩

theorem planned_numbersRequest :
    numbersRequest.planned productCatalog oneBucket "product" = .ok numbersPlan := rfl

/-- One bucket is enough for the price that two products have, and not for the numbers beside it, of
which they have two. -/
theorem statistics_approximate_products :
    let v := Service.ofDocuments (.new productCatalog) oneBucket none products
    products.length < RowSet.capacity ∧
      ∃ response, (v.search "product" numbersRequest).1 = .ok response ∧
      (∃ stats, Table.value? "price" response.statistics = some stats ∧
        stats.approximate = false ∧ stats.count = 2) ∧
      ∃ stats, Table.value? "stats_price" response.statistics = some stats ∧
        stats.approximate = true := by
  intro v
  have hdocs : products.length < RowSet.capacity := by decide
  have hsearch : (v.search "product" numbersRequest).1 = .ok (numbersPlan.responseOf products) :=
    Service.search_eq_ok_iff.mpr ⟨numbersPlan, planned_numbersRequest, rfl⟩
  have hexact := statistics_approximate_iff_cut (.new productCatalog) oneBucket none products hdocs
    "product" numbersRequest hsearch
  have hfound : products.filter (numbersRequest.finds
      ((CatalogStore.new productCatalog).current.scope oneBucket "product")) = products :=
    Request.filter_finds_of_matchAll planned_numbersRequest rfl products
  simp only [hfound] at hexact
  refine ⟨hdocs, _, hsearch, ?_, ?_⟩
  · obtain ⟨t, ht, stats, hvalue, happroximate, hcount⟩ := hexact "price" List.mem_cons_self
    have hpath : t.paths.exact = "price" := by
      cases ht
      rfl
    rw [hpath] at happroximate hcount
    have hfew : ¬ oneBucket.statsCap <
        (products.flatMap (Document.texts "price")).toFinset.card := by decide +kernel
    have hfalse : stats.approximate = false := by
      rw [← Bool.not_eq_true, happroximate]
      exact hfew
    exact ⟨stats, hvalue, hfalse, (hcount hfalse).trans (by decide +kernel)⟩
  · obtain ⟨t, ht, stats, hvalue, happroximate, -⟩ :=
      hexact "stats_price" (List.mem_cons_of_mem _ List.mem_cons_self)
    have hpath : t.paths.exact = "stats_price" := by
      cases ht
      rfl
    rw [hpath] at happroximate
    exact ⟨stats, hvalue, happroximate.mpr (by decide +kernel)⟩

end GuardedSearch
