import GuardedSearch.Proofs.Predicate.Pointwise

/-!
# Groups count

Of the clauses that a group merely hopes for, a minimum has to match. How that is found out is for
the minimum to decide: at zero nobody looks, at one the sets of rows are united, and only above that
each row is counted, as often as a set has it. Counting alone would do. It finds the same rows for
every minimum, for clauses that are repeated, and for a minimum that there are not enough clauses to
reach, which no row does.

The union has the rows of its sets and the others do not, so that the three agree among the rows
that there are documents for. Clauses have no other rows, however deeply groups are nested.

## Main definitions

* `Predicate.tally` — the rows with a quorum, found by counting whatever the minimum

## Main results

* `Predicate.inter_quorum_eq_tally` — every way of taking a quorum counts
* `Predicate.lt_length_of_has_rows` — rows have documents
* `Predicate.rows_group_counts` — the rows of a group, by what its clauses have
-/

namespace GuardedSearch

namespace Predicate

/-! ### Quorums -/

/-- The rows of `n` that at least `minimum` of the sets have, found by counting. No sets ask for
nothing. -/
def tally (n minimum : Nat) (sets : List RowSet) : RowSet :=
  if sets.isEmpty then .upTo n else .counted n minimum sets

theorem has_tally (n minimum : Nat) (sets : List RowSet) (row : Nat) :
    (tally n minimum sets).has row =
      (decide (row < n) &&
        (sets.isEmpty || decide (minimum ≤ (sets.map (·.has row)).count true))) := by
  rw [tally]
  cases sets.isEmpty with
  | true => simp
  | false => simp [RowSet.has_counted]

/-- **Every way of taking a quorum counts**, among the rows that there are. -/
theorem inter_quorum_eq_tally (n minimum : Nat) (sets : List RowSet) :
    (RowSet.upTo n).inter (quorum n minimum sets) = tally n minimum sets :=
  RowSet.ext_has fun row => by rw [RowSet.has_inter, has_quorum, has_tally]

/-- A group may count whatever its minimum. -/
theorem combine_eq_tally (n : Nat) (must should mustNot : List RowSet) (minimum : Nat) :
    combine n must should mustNot minimum =
      mustNot.foldl RowSet.diff
        ((must.foldl RowSet.inter (.upTo n)).inter (tally n minimum should)) := by
  refine congrArg (mustNot.foldl RowSet.diff) (RowSet.ext_has fun row => ?_)
  rw [← inter_quorum_eq_tally]
  simp only [RowSet.has_inter, RowSet.has_foldl_inter]
  cases (RowSet.upTo n).has row <;> simp

/-! ### Clauses -/

theorem verdict_eq_true_iff {must should mustNot : List Bool} {minimum : Nat} :
    verdict must should mustNot minimum = true ↔
      (∀ b ∈ must, b = true) ∧ (∀ b ∈ mustNot, b = false) ∧
        (should = [] ∨ minimum ≤ should.count true) := by
  rw [verdict, Bool.and_eq_true, Bool.and_eq_true, Bool.not_eq_true', List.all_eq_true,
    List.any_eq_false, Bool.or_eq_true, List.isEmpty_iff, decide_eq_true_iff, and_right_comm,
    and_assoc]
  simp only [id, Bool.not_eq_true]

/-- Rows have documents. -/
theorem lt_length_of_has_rows {p : Predicate} {docs : List Document} {row : Nat}
    (h : (p.rows docs).has row = true) : row < docs.length := by
  rw [has_rows, Option.any_eq_true] at h
  obtain ⟨d, hd, -⟩ := h
  exact (List.getElem?_eq_some_iff.mp hd).1

/-- Counting the sets of rows that have a row counts the clauses that match it. -/
theorem count_rowsOfEach (docs : List Document) (ps : List Predicate) (row : Nat) :
    ((rowsOfEach docs ps).map (·.has row)).count true =
      ps.countP fun p => (p.rows docs).has row := by
  rw [rowsOfEach_eq_map, List.map_map, List.count, List.countP_map]
  exact List.countP_congr fun p _ => by simp

/-- **Groups count.** A row belongs to a group if there is a document in it, every clause of `must`
matches it, no clause of `mustNot` does, and at least `minimum` of the clauses of `should` do,
counted with repetition, unless there are none of these. All three ways of taking a quorum find the
same rows as counting, and every predicate has only rows with documents, whose numbers have 32
bits. -/
theorem rows_group_counts (must should mustNot : List Predicate) (minimum : Nat)
    {docs : List Document} (hdocs : docs.length < RowSet.capacity) :
    (∀ row, ((group must should mustNot minimum).rows docs).has row = true ↔
      row < docs.length ∧
        (∀ p ∈ must, (p.rows docs).has row = true) ∧
        (∀ p ∈ mustNot, (p.rows docs).has row = false) ∧
        (should = [] ∨ minimum ≤ should.countP fun p => (p.rows docs).has row)) ∧
    (RowSet.upTo docs.length).inter (quorum docs.length minimum (should.map (rows docs))) =
      tally docs.length minimum (should.map (rows docs)) ∧
    (group must should mustNot minimum).rows docs =
      (mustNot.map (rows docs)).foldl RowSet.diff
        (((must.map (rows docs)).foldl RowSet.inter (.upTo docs.length)).inter
          (tally docs.length minimum (should.map (rows docs)))) ∧
    ∀ (p : Predicate) row, (p.rows docs).has row = true →
      row < docs.length ∧ row < RowSet.capacity := by
  refine ⟨fun row => ?_, inter_quorum_eq_tally _ _ _, ?_, fun p row hrow => ?_⟩
  · rw [rows, has_combine, Bool.and_eq_true, decide_eq_true_iff, verdict_eq_true_iff,
      count_rowsOfEach]
    simp only [rowsOfEach_eq_map, List.map_map, List.forall_mem_map, List.map_eq_nil_iff,
      Function.comp_apply]
  · rw [rows, combine_eq_tally, rowsOfEach_eq_map, rowsOfEach_eq_map, rowsOfEach_eq_map]
  · have hlt := lt_length_of_has_rows hrow
    exact ⟨hlt, Nat.lt_trans hlt hdocs⟩

/-- A clause that stands twice counts twice, and no more often. -/
theorem rows_group_counts_twice :
    let docs : List Document := [⟨0, .null⟩]
    docs.length < RowSet.capacity ∧
      ((group [] [matchAll, matchAll] [] 2).rows docs).has 0 = true ∧
      ((group [] [matchAll, matchAll] [] 3).rows docs).has 0 = false := by
  intro docs
  have hdocs : docs.length < RowSet.capacity := by decide
  have htwice : [matchAll, matchAll].countP (fun p => (p.rows docs).has 0) = 2 := by decide
  refine ⟨hdocs, ?_, ?_⟩
  · exact ((rows_group_counts [] [matchAll, matchAll] [] 2 hdocs).1 0).mpr
      ⟨Nat.one_pos, List.forall_mem_nil _, List.forall_mem_nil _,
        .inr (Nat.le_of_eq htwice.symm)⟩
  · rw [← Bool.not_eq_true, (rows_group_counts [] [matchAll, matchAll] [] 3 hdocs).1 0, htwice]
    rintro ⟨-, -, -, hnil | hthree⟩
    · cases hnil
    · exact absurd hthree (by decide)

end Predicate

end GuardedSearch
