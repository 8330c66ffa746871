import GuardedSearch.Distribution.OfDocuments
import GuardedSearch.Proofs.Table

/-!
# Rankings of texts

What a distribution says of a list of documents can be said without buckets. A document holds texts
at a path; of each text it is known how many documents hold it; and the texts are ranked, those held
by more documents first, and those held by as many in ascending order. There is one ranking only,
and it does not depend on the order of the documents. A distribution is cut from the front of it.

The value in a bucket is another matter: values of different types have the same text, and the first
one found is kept. That choice depends on the order of the documents, but it does not show in the
text.

## Main definitions

* `Document.texts`, `Document.holders` — the texts at a path, and how many documents hold one
* `Distribution.IsRanking` — the texts that documents hold, in their order

## Main results

* `Distribution.IsRanking.unique`, `Distribution.IsRanking.of_perm` — there is one ranking
* `Distribution.isRanking_rankedTexts` — the buckets before the cut are ranked
* `Distribution.counts_ofDocuments` — the counts of a distribution are the front of the ranking
-/

namespace GuardedSearch

/-! ### Erasing repetitions -/

section

variable {α β : Type} [BEq β]

theorem nodup_eraseDups [LawfulBEq β] (l : List β) : l.eraseDups.Nodup := by
  cases l with
  | nil => exact List.nodup_nil
  | cons a l =>
    rw [List.eraseDups_cons, List.nodup_cons]
    refine ⟨fun hmem => ?_, nodup_eraseDups (l.filter fun b => !b == a)⟩
    simpa using (List.mem_filter.mp (List.mem_eraseDups.mp hmem)).2
termination_by l.length
decreasing_by exact Nat.lt_succ_of_le (List.length_filter_le _ l)

/-- Erasing what repeats a value of `f` leaves each of these values once. -/
theorem map_eraseDupsBy (f : α → β) (l : List α) :
    (l.eraseDupsBy fun a b => f a == f b).map f = (l.map f).eraseDups := by
  cases l with
  | nil => rfl
  | cons a l =>
    have hrest := map_eraseDupsBy f (l.filter fun b => !f b == f a)
    rw [List.eraseDupsBy_cons, List.map_cons, List.map_cons, List.eraseDups_cons, List.filter_map]
    simp only [Bool.decide_eq_false, Function.comp_def]
    rw [hrest]
termination_by l.length
decreasing_by exact Nat.lt_succ_of_le (List.length_filter_le _ l)

theorem eraseDupsBy_sublist (r : α → α → Bool) (l : List α) :
    (l.eraseDupsBy r).Sublist l := by
  cases l with
  | nil => exact List.Sublist.refl _
  | cons a l =>
    rw [List.eraseDupsBy_cons]
    exact ((eraseDupsBy_sublist r _).trans List.filter_sublist).cons_cons a
termination_by l.length
decreasing_by exact Nat.lt_succ_of_le (List.length_filter_le _ l)

end

namespace Document

/-! ### Texts in documents -/

/-- The texts of the single values that a document has at a path. -/
def texts (path : String) (d : Document) : List String :=
  ((Json.fieldValues path d.source).filterMap Literal.ofJson?).map Literal.plain

/-- How many documents hold a text at a path. -/
def holders (path : String) (docs : List Document) (text : String) : Nat :=
  docs.countP fun d => text ∈ d.texts path

theorem holders_perm {docs docs' : List Document} (h : docs.Perm docs') (path : String) :
    holders path docs = holders path docs' :=
  funext fun _ => h.countP_eq _

end Document

namespace TextedValue

theorem map_text_ofDocument (path : String) (d : Document) :
    (ofDocument path d).map text = (d.texts path).eraseDups := by
  have hmap := map_eraseDupsBy text
    (((Json.fieldValues path d.source).filterMap Literal.ofJson?).map fun l => ⟨l.plain, l⟩)
  rw [List.map_map] at hmap
  exact hmap

theorem text_eq_plain {path : String} {d : Document} {v : TextedValue}
    (h : v ∈ ofDocument path d) : v.text = v.value.plain := by
  obtain ⟨l, -, rfl⟩ := List.mem_map.mp ((eraseDupsBy_sublist _ _).subset h)
  rfl

theorem occurrences_eq_count (t : String) (values : List TextedValue) :
    occurrences t values = (values.map text).count t := by
  rw [occurrences, List.count, List.countP_map]
  rfl

/-- A document counts once for each of its texts. -/
theorem occurrences_flatMap (path : String) (docs : List Document) (t : String) :
    occurrences t (docs.flatMap (ofDocument path)) = Document.holders path docs t := by
  induction docs with
  | nil => rfl
  | cons d docs ih =>
    rw [occurrences_eq_count] at ih ⊢
    rw [List.flatMap_cons, List.map_append, List.count_append, ih, map_text_ofDocument,
      (nodup_eraseDups _).count, Document.holders, Document.holders, List.countP_cons, Nat.add_comm]
    simp only [List.mem_eraseDups, decide_eq_true_eq]

end TextedValue

/-! ### The order of buckets -/

namespace TextedBucket

theorem before_iff {a b : TextedBucket} : a.before b = true ↔
    b.bucket.count < a.bucket.count ∨ a.bucket.count = b.bucket.count ∧ a.text ≤ b.text := by
  simp [before]

theorem before_trans (a b c : TextedBucket) (hab : a.before b = true)
    (hbc : b.before c = true) : a.before c = true := by
  rw [before_iff] at hab hbc ⊢
  rcases hab with hab | ⟨hab, htext⟩
  · left
    omega
  · rcases hbc with hbc | ⟨hbc, htext'⟩
    · left
      omega
    · exact Or.inr ⟨hab.trans hbc, String.le_trans htext htext'⟩

theorem before_total (a b : TextedBucket) : (a.before b || b.before a) = true := by
  rw [Bool.or_eq_true, before_iff, before_iff]
  rcases Nat.lt_trichotomy a.bucket.count b.bucket.count with hlt | heq | hgt
  · exact Or.inr (Or.inl hlt)
  · exact (String.le_total a.text b.text).imp (fun h => Or.inr ⟨heq, h⟩)
      fun h => Or.inr ⟨heq.symm, h⟩
  · exact Or.inl (Or.inl hgt)

end TextedBucket

/-! ### Rankings -/

namespace Distribution

/-- The texts that documents hold at a path, each once: those held by more documents first, and
those held by as many in ascending order. -/
structure IsRanking (path : String) (docs : List Document) (ranked : List String) : Prop where
  nodup : ranked.Nodup
  mem_iff : ∀ text, text ∈ ranked ↔ ∃ d ∈ docs, text ∈ d.texts path
  sorted : ranked.Pairwise fun t u =>
    Document.holders path docs u < Document.holders path docs t ∨
      Document.holders path docs t = Document.holders path docs u ∧ t < u

namespace IsRanking

variable {path : String} {docs docs' : List Document} {ranked ranked' : List String}

/-- There is one ranking of the texts of a list of documents. -/
theorem unique (h : IsRanking path docs ranked) (h' : IsRanking path docs ranked') :
    ranked = ranked' := by
  refine List.Perm.eq_of_pairwise (fun t u _ _ htu hut => ?_) h.sorted h'.sorted
    ((List.perm_ext_iff_of_nodup h.nodup h'.nodup).mpr fun t =>
      (h.mem_iff t).trans (h'.mem_iff t).symm)
  rcases htu with htu | ⟨heq, htu⟩
  · rcases hut with hut | ⟨heq, -⟩
    · omega
    · omega
  · rcases hut with hut | ⟨-, hut⟩
    · omega
    · exact absurd hut (String.lt_asymm htu)

/-- The order of the documents plays no part in the ranking. -/
theorem of_perm (h : IsRanking path docs ranked) (hperm : docs.Perm docs') :
    IsRanking path docs' ranked where
  nodup := h.nodup
  mem_iff text := by
    rw [h.mem_iff]
    simp only [hperm.mem_iff]
  sorted := by
    rw [← Document.holders_perm hperm path]
    exact h.sorted

end IsRanking

variable (path : String) (docs : List Document)

/-- All buckets for the texts that documents hold at a path, in their order. -/
def rankedBuckets : List TextedBucket :=
  (TextedBucket.ofValues (docs.flatMap (TextedValue.ofDocument path))).mergeSort
    TextedBucket.before

/-- The texts that documents hold at a path, in the order of their buckets. -/
def rankedTexts : List String :=
  (rankedBuckets path docs).map TextedBucket.text

variable {path docs}

/-- A bucket stands under the text of its value, and counts the documents that hold it. -/
theorem bucket_of_mem {b : TextedBucket} (h : b ∈ rankedBuckets path docs) :
    b.bucket.value.plain = b.text ∧ b.bucket.count = Document.holders path docs b.text := by
  rw [rankedBuckets, List.mem_mergeSort, TextedBucket.ofValues] at h
  obtain ⟨v, hv, rfl⟩ := List.mem_map.mp h
  obtain ⟨d, -, hvd⟩ := List.mem_flatMap.mp ((eraseDupsBy_sublist _ _).subset hv)
  exact ⟨(TextedValue.text_eq_plain hvd).symm, TextedValue.occurrences_flatMap path docs v.text⟩

variable (path docs)

/-- Apart from their order, the texts of the buckets are the texts of the documents. -/
theorem rankedTexts_perm :
    (rankedTexts path docs).Perm
      (docs.flatMap fun d => (d.texts path).eraseDups).eraseDups := by
  have htexts : (TextedBucket.ofValues (docs.flatMap (TextedValue.ofDocument path))).map
      TextedBucket.text = (docs.flatMap fun d => (d.texts path).eraseDups).eraseDups := by
    rw [TextedBucket.ofValues, List.map_map,
      show TextedBucket.text ∘ (fun v : TextedValue => _) = TextedValue.text from rfl,
      show TextedValue.sameText = fun v w => v.text == w.text from rfl, map_eraseDupsBy,
      List.map_flatMap]
    simp only [TextedValue.map_text_ofDocument]
  rw [← htexts]
  exact (List.mergeSort_perm _ _).map _

theorem nodup_rankedTexts : (rankedTexts path docs).Nodup :=
  (rankedTexts_perm path docs).nodup_iff.mpr (nodup_eraseDups _)

theorem isRanking_rankedTexts : IsRanking path docs (rankedTexts path docs) where
  nodup := nodup_rankedTexts path docs
  mem_iff text := by
    rw [(rankedTexts_perm path docs).mem_iff]
    simp only [List.mem_eraseDups, List.mem_flatMap]
  sorted := by
    have hbefore : (rankedBuckets path docs).Pairwise fun a b => a.before b = true :=
      List.pairwise_mergeSort TextedBucket.before_trans TextedBucket.before_total _
    have hne : (rankedBuckets path docs).Pairwise fun a b => a.text ≠ b.text :=
      List.pairwise_map.mp (nodup_rankedTexts path docs)
    rw [rankedTexts, List.pairwise_map]
    refine (hbefore.and hne).imp_of_mem fun {a b} ha hb hab => ?_
    obtain ⟨hab, hne⟩ := hab
    rw [TextedBucket.before_iff, (bucket_of_mem ha).2, (bucket_of_mem hb).2] at hab
    refine hab.imp_right fun ⟨hcount, hle⟩ => ⟨hcount, ?_⟩
    exact Std.lt_of_le_of_ne hle hne

/-! ### Counts -/

/-- **The counts of a distribution are cut from the front of the ranking.** -/
theorem counts_ofDocuments (cap : Nat) :
    (ofDocuments path cap docs).counts =
      Table.ofList (((rankedTexts path docs).take cap).map fun text =>
        (text, Document.holders path docs text)) := by
  have hbuckets : (allBuckets path docs).map (fun b => (b.value.plain, b.count)) =
      (rankedTexts path docs).map fun text => (text, Document.holders path docs text) := by
    rw [allBuckets, rankedTexts, List.map_map, List.map_map]
    refine List.map_congr_left fun b hb => ?_
    obtain ⟨hplain, hcount⟩ := bucket_of_mem hb
    exact Prod.ext hplain hcount
  rw [counts, ofDocuments, cut, List.map_take, List.map_take, hbuckets]

theorem counts_perm (cap : Nat) :
    (ofDocuments path cap docs).counts.Perm
      (((rankedTexts path docs).take cap).map fun text =>
        (text, Document.holders path docs text)) := by
  rw [counts_ofDocuments]
  refine Table.ofList_perm ?_
  rw [Table.names, List.map_map]
  exact (List.map_id' _).symm ▸ (nodup_rankedTexts path docs).sublist (List.take_sublist cap _)

/-- The order of the documents does not show in the counts. -/
theorem counts_ofDocuments_of_perm {docs docs' : List Document} (hperm : docs.Perm docs')
    (cap : Nat) : (ofDocuments path cap docs).counts = (ofDocuments path cap docs').counts := by
  have hranked : rankedTexts path docs = rankedTexts path docs' :=
    ((isRanking_rankedTexts path docs).of_perm hperm).unique (isRanking_rankedTexts path docs')
  rw [counts_ofDocuments, counts_ofDocuments, hranked, Document.holders_perm hperm]

end Distribution

end GuardedSearch
