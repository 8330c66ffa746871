import GuardedSearch.Predicate.Rows
import Mathlib.Data.List.Basic

/-!
# Predicates, one document at a time

A predicate is evaluated on a list of documents as a whole, by operations on sets of rows. That is
how it is computed, not what it means: whether a row belongs to the result depends on the document
in that row and on nothing else. So a predicate has a verdict on a single document, and evaluating
it on a list is filtering by the verdict.

## Main definitions

* `Predicate.accepts` — the verdict on a document: evaluate the document alone
* `Predicate.verdict` — the verdict of a group, by counting those of its clauses
* `Json.IsShallow` — what does not look into objects, which is all that leaves do

## Main results

* `Predicate.has_combine` — the operations on sets agree with counting, whatever the minimum
* `Predicate.has_rows` — a row belongs to the result if its document is accepted
* `Predicate.matching_eq_filter` — the documents that match are those that are accepted
* `Predicate.accepts_congr` — the verdict depends on what a document holds, not on its number
-/

namespace GuardedSearch

namespace RowSet

/-! ### Folding sets -/

theorem has_foldl_inter (s : RowSet) (ts : List RowSet) (row : Nat) :
    (ts.foldl inter s).has row = (s.has row && (ts.map (·.has row)).all id) := by
  induction ts generalizing s with
  | nil => simp
  | cons t ts ih => simp [ih, Bool.and_assoc]

theorem has_foldl_union (s : RowSet) (ts : List RowSet) (row : Nat) :
    (ts.foldl union s).has row = (s.has row || (ts.map (·.has row)).any id) := by
  induction ts generalizing s with
  | nil => simp
  | cons t ts ih => simp [ih, Bool.or_assoc]

theorem has_foldl_diff (s : RowSet) (ts : List RowSet) (row : Nat) :
    (ts.foldl diff s).has row = (s.has row && !(ts.map (·.has row)).any id) := by
  induction ts generalizing s with
  | nil => simp
  | cons t ts ih => simp [ih, Bool.and_assoc]

/-- What counting the rows of sets adds to the count of a row: the number of those that have it. -/
theorem getElem?_foldl_countIn (sets : List RowSet) (counts : List Nat) (row : Nat) :
    (sets.foldl countIn counts)[row]? =
      counts[row]?.map (· + (sets.map (·.has row)).count true) := by
  induction sets generalizing counts with
  | nil => simp
  | cons s sets ih =>
    rw [List.foldl_cons, ih, countIn, List.getElem?_mapIdx, List.map_cons, Option.map_map]
    refine congrFun (congrArg Option.map (funext fun k => ?_)) counts[row]?
    cases h : s.has row with
    | false => simp
    | true =>
      rw [Function.comp_apply, if_pos rfl, List.count_cons_self]
      omega

theorem has_counted (n least : Nat) (sets : List RowSet) (row : Nat) :
    (counted n least sets).has row =
      (decide (row < n) && decide (least ≤ (sets.map (·.has row)).count true)) := by
  rw [counted, has_ofTest, getElem?_foldl_countIn, List.getElem?_replicate]
  by_cases h : row < n
  · simp [h]
  · simp [h]

/-- If a set tells of each row whether its item passes a test, it selects the items that pass. -/
theorem select_eq_filter {α : Type} {s : RowSet} {test : α → Bool} {items : List α}
    (h : ∀ row, s.has row = items[row]?.any test) : s.select items = items.filter test := by
  have hrow : ∀ x ∈ items.zipIdx, s.has x.2 = test x.1 := by
    rintro ⟨a, row⟩ hx
    have ha : items[row]? = some a := List.mem_zipIdx_iff_getElem?.mp hx
    simp [h row, ha]
  calc s.select items
      = (items.zipIdx.filter fun x => test x.1).map (·.1) := by
        rw [select, List.filter_congr hrow]
    _ = (items.zipIdx.map (·.1)).filter test := by
        rw [List.filter_map]
        rfl
    _ = items.filter test := by rw [List.zipIdx_map_fst]

end RowSet

namespace Json

/-- A function that looks at values, but not into objects. -/
def IsShallow {α : Type} (f : Json → α) : Prop :=
  ∀ members members', f (object members) = f (object members')

/-- An object is like no literal. -/
theorem compareTo?_object (members : List (String × Json)) :
    (object members).compareTo? = fun _ => none := by
  funext l
  cases l <;> rfl

end Json

namespace Predicate

/-! ### Groups -/

/-- What becomes of the verdicts on the clauses of a group: all of `must`, at least `minimum` of
`should` unless there are none, and none of `mustNot`. -/
def verdict (must should mustNot : List Bool) (minimum : Nat) : Bool :=
  must.all id && (should.isEmpty || decide (minimum ≤ should.count true)) && !mustNot.any id

/-- All three ways of taking a quorum count. The union alone may have rows that are none of the
first `n`. -/
theorem has_quorum (n minimum : Nat) (should : List RowSet) (row : Nat) :
    ((RowSet.upTo n).has row && (quorum n minimum should).has row) =
      (decide (row < n) &&
        (should.isEmpty || decide (minimum ≤ (should.map (·.has row)).count true))) := by
  rw [quorum]
  split
  case isTrue h =>
    rcases h with h | h
    · simp [h]
    · simp [h]
  case isFalse h =>
    have hempty : should.isEmpty = false := by
      rw [not_or] at h
      simpa using h.1
    split
    case isTrue hone =>
      have hany : (should.map (·.has row)).any id =
          decide (1 ≤ (should.map (·.has row)).count true) := by
        rw [Bool.eq_iff_iff, decide_eq_true_iff, Nat.one_le_iff_ne_zero, Ne, List.count_eq_zero]
        simp
      rw [RowSet.has_foldl_union, hempty, hone, hany]
      simp
    case isFalse =>
      rw [RowSet.has_counted, hempty]
      simp

/-- **The operations on sets count.** The shortcuts for a minimum of zero and one are not seen. -/
theorem has_combine (n : Nat) (must should mustNot : List RowSet) (minimum row : Nat) :
    (combine n must should mustNot minimum).has row =
      (decide (row < n) && verdict (must.map (·.has row)) (should.map (·.has row))
        (mustNot.map (·.has row)) minimum) := by
  rw [combine, RowSet.has_foldl_diff, RowSet.has_inter, RowSet.has_foldl_inter,
    Bool.and_right_comm ((RowSet.upTo n).has row), has_quorum, verdict, List.isEmpty_map]
  simp only [Bool.and_assoc, Bool.and_comm, Bool.and_left_comm]

/-! ### Verdicts -/

theorem rowsOfEach_eq_map (docs : List Document) (ps : List Predicate) :
    rowsOfEach docs ps = ps.map (rows docs) := by
  induction ps with
  | nil => rfl
  | cons p ps ih => rw [rowsOfEach, List.map_cons, ih]

/-- Whether the predicate matches the document when it is evaluated on the document alone. -/
def accepts (p : Predicate) (d : Document) : Bool :=
  (p.rows [d]).has 0

theorem accepts_group (must should mustNot : List Predicate) (minimum : Nat) (d : Document) :
    (group must should mustNot minimum).accepts d =
      verdict (must.map (·.accepts d)) (should.map (·.accepts d)) (mustNot.map (·.accepts d))
        minimum := by
  have hmap : ∀ ps, (rowsOfEach [d] ps).map (·.has 0) = ps.map (·.accepts d) := by
    intro ps
    rw [rowsOfEach_eq_map, List.map_map]
    rfl
  rw [accepts, rows, has_combine, hmap, hmap, hmap]
  simp

/-- A leaf accepts the documents that pass its test. -/
theorem accepts_of_leaf {p : Predicate} {test : Document → Bool}
    (h : ∀ docs, p.rows docs = .ofTest test docs) (d : Document) : p.accepts d = test d := by
  simp [accepts, h]

theorem has_rows_of_leaf {p : Predicate} {test : Document → Bool}
    (h : ∀ docs, p.rows docs = .ofTest test docs) (docs : List Document) (row : Nat) :
    (p.rows docs).has row = docs[row]?.any p.accepts := by
  rw [h docs, RowSet.has_ofTest, funext (accepts_of_leaf h)]

mutual

/-- **Rows are judged one by one.** -/
theorem has_rows (docs : List Document) (row : Nat) :
    ∀ p : Predicate, (p.rows docs).has row = docs[row]?.any p.accepts
  | matchAll => by
    cases h : docs[row]? with
    | none => simpa [rows] using h
    | some d =>
      have hlt : row < docs.length := (List.getElem?_eq_some_iff.mp h).1
      simp [rows, accepts, hlt]
  | group must should mustNot minimum => by
    rw [rows, has_combine]
    cases h : docs[row]? with
    | none =>
      have hge : ¬ row < docs.length := by simpa using h
      simp [hge]
    | some d =>
      have hlt : row < docs.length := (List.getElem?_eq_some_iff.mp h).1
      rw [map_has_rowsOfEach h must, map_has_rowsOfEach h should, map_has_rowsOfEach h mustNot,
        Option.any_some, accepts_group]
      simp [hlt]
  | term _ _ => has_rows_of_leaf (fun _ => rfl) docs row
  | terms _ _ => has_rows_of_leaf (fun _ => rfl) docs row
  | startsWith _ _ => has_rows_of_leaf (fun _ => rfl) docs row
  | contains _ _ => has_rows_of_leaf (fun _ => rfl) docs row
  | range _ _ => has_rows_of_leaf (fun _ => rfl) docs row
  | fullText _ _ => has_rows_of_leaf (fun _ => rfl) docs row

theorem map_has_rowsOfEach {docs : List Document} {row : Nat} {d : Document}
    (h : docs[row]? = some d) :
    ∀ ps : List Predicate, (rowsOfEach docs ps).map (·.has row) = ps.map (·.accepts d)
  | [] => rfl
  | p :: ps => by
    rw [rowsOfEach, List.map_cons, List.map_cons, map_has_rowsOfEach h ps, has_rows docs row p, h]
    rfl

end

/-! ### What a verdict depends on -/

theorem isShallow_equals (v : Literal) : Json.IsShallow fun w => w.equals v := by
  intro members members'
  simp only [Json.equals, Json.compareTo?_object]

theorem isShallow_equalsAny (vs : List Literal) : Json.IsShallow fun w => vs.any w.equals := by
  intro members members'
  have hequals : (Json.object members).equals = (Json.object members').equals :=
    funext fun v => isShallow_equals v members members'
  simp only [hequals]

theorem isShallow_withinBounds (bounds : Bounds) : Json.IsShallow (withinBounds bounds) := by
  intro members members'
  rw [withinBounds, withinBounds, Json.compareTo?_object, Json.compareTo?_object]

theorem accepts_congr_of_leaf {p : Predicate} {test : Document → Bool} {d d' : Document}
    (h : ∀ docs, p.rows docs = .ofTest test docs) (htest : test d = test d') :
    p.accepts d = p.accepts d' := by
  rw [accepts_of_leaf h, accepts_of_leaf h, htest]

mutual

/-- Documents in which shallow tests find the same have the same verdict. -/
theorem accepts_congr_of_shallow {d d' : Document}
    (h : ∀ path test, Json.IsShallow test → anyValue path test d = anyValue path test d') :
    ∀ p : Predicate, p.accepts d = p.accepts d'
  | matchAll => rfl
  | group must should mustNot _ => by
    rw [accepts_group, accepts_group, map_accepts_congr_of_shallow h must,
      map_accepts_congr_of_shallow h should, map_accepts_congr_of_shallow h mustNot]
  | term path v => accepts_congr_of_leaf (fun _ => rfl) (h path _ (isShallow_equals v))
  | terms path vs => accepts_congr_of_leaf (fun _ => rfl) (h path _ (isShallow_equalsAny vs))
  | startsWith path _ => accepts_congr_of_leaf (fun _ => rfl) (h path _ fun _ _ => rfl)
  | contains path _ => accepts_congr_of_leaf (fun _ => rfl) (h path _ fun _ _ => rfl)
  | range path bounds =>
    accepts_congr_of_leaf (fun _ => rfl) (h path _ (isShallow_withinBounds bounds))
  | fullText paths query => by
    have hquery : ∀ path, anyValue path (hasWord (Text.words query)) d =
        anyValue path (hasWord (Text.words query)) d' := fun path => h path _ fun _ _ => rfl
    refine accepts_congr_of_leaf (fun _ => rfl) ?_
    simp only [hasQuery, hquery]

theorem map_accepts_congr_of_shallow {d d' : Document}
    (h : ∀ path test, Json.IsShallow test → anyValue path test d = anyValue path test d') :
    ∀ ps : List Predicate, ps.map (·.accepts d) = ps.map (·.accepts d')
  | [] => rfl
  | p :: ps => by
    rw [List.map_cons, List.map_cons, accepts_congr_of_shallow h p,
      map_accepts_congr_of_shallow h ps]

end

/-- The number of a document plays no part in the verdict on it. -/
theorem accepts_congr {d d' : Document} (h : d.source = d'.source) (p : Predicate) :
    p.accepts d = p.accepts d' := by
  refine accepts_congr_of_shallow (fun path test _ => ?_) p
  rw [anyValue, anyValue, h]

/-! ### The groups that filters are made of -/

@[simp] theorem accepts_matchAll (d : Document) : matchAll.accepts d = true := by
  simp [accepts, rows]

@[simp] theorem accepts_all (ps : List Predicate) (d : Document) :
    (all ps).accepts d = ps.all (·.accepts d) := by
  simp [all, accepts_group, verdict]

theorem accepts_any {ps : List Predicate} (h : ps ≠ []) (d : Document) :
    (any ps).accepts d = ps.any (·.accepts d) := by
  have hempty : ps.isEmpty = false := by simpa using h
  rw [any, accepts_group, verdict, List.isEmpty_map, hempty, Bool.eq_iff_iff]
  simp [Nat.one_le_iff_ne_zero, List.count_eq_zero]

@[simp] theorem accepts_no (p : Predicate) (d : Document) : (no p).accepts d = !p.accepts d := by
  simp [no, accepts_group, verdict]

/-! ### Lists of documents -/

/-- The documents that match are those that are accepted. -/
theorem matching_eq_filter (p : Predicate) (docs : List Document) :
    p.matching docs = docs.filter p.accepts :=
  RowSet.select_eq_filter fun row => has_rows docs row p

end Predicate

end GuardedSearch
