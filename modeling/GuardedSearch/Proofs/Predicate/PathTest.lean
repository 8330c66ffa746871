import GuardedSearch.Proofs.Predicate.Pointwise

/-!
# Predicates that test the values at a path

Three kinds of leaves compare values: with one value, with any value of a list, and with bounds. If
there is something to compare with, a document has to hold a value to be accepted. Without it the
leaf would be no restriction, or one that nothing meets; and a group without clauses is none either.

What a document holds at a path is less simple than it looks, since the values for comparison stand
in for those for search. So a document can be accepted that holds nothing at the path itself.

## Main definitions

* `Predicate.TestsAt` — the leaves that compare the values at a path with something
* `Document.LacksValueAt` — a document has no values at a path, and none to stand in for them

## Main results

* `Predicate.TestsAt.path_unique` — a leaf tests the values at one path
* `Predicate.TestsAt.accepts_eq_false` — a document without values is not accepted
-/

namespace GuardedSearch

/-! ### Documents without values -/

/-- The document holds no value at the path and, if that is a path for search, no value at the path
for comparison or the path without either ending. -/
def Document.LacksValueAt (d : Document) (path : String) : Prop :=
  Json.valuesAt path d.source = [] ∧
    ∀ stem, Text.withoutEnding? PathPair.textEnding path = some stem →
      Json.valuesAt (stem ++ PathPair.keywordEnding) d.source = [] ∧
        Json.valuesAt stem d.source = []

/-- These are the documents in which nothing is found to compare with. -/
theorem Document.fieldValues_eq_nil_iff {d : Document} {path : String} :
    Json.fieldValues path d.source = [] ↔ d.LacksValueAt path := by
  rw [Json.fieldValues, LacksValueAt]
  cases hexact : Json.valuesAt path d.source with
  | cons v vs => simp
  | nil =>
    cases Text.withoutEnding? PathPair.textEnding path with
    | none => simp
    | some stem =>
      cases hkeyword : Json.valuesAt (stem ++ PathPair.keywordEnding) d.source with
      | cons v vs => simp [hkeyword]
      | nil => simp [hkeyword]

namespace Predicate

/-! ### Tests -/

/-- The predicate compares the values at the path with a value, with the values of a list that has
one, or with a single bound. -/
inductive TestsAt (path : String) : Predicate → Prop
  | term (v : Literal) : TestsAt path (.term path v)
  | terms {vs : List Literal} (h : vs ≠ []) : TestsAt path (.terms path vs)
  | range {bounds : Bounds} (h : bounds.members.length = 1) : TestsAt path (.range path bounds)

namespace TestsAt

variable {p : Predicate} {path : String}

theorem path_unique (h : p.TestsAt path) {other : String} (h' : p.TestsAt other) :
    path = other := by
  cases h with
  | term v => cases h' with | term => rfl
  | terms hvs => cases h' with | terms => rfl
  | range hbounds => cases h' with | range => rfl

/-- What is tested is each value by itself. -/
theorem exists_rows_eq (h : p.TestsAt path) :
    ∃ test : Json → Bool, ∀ docs, p.rows docs = .ofTest (anyValue path test) docs := by
  cases h with
  | term v => exact ⟨_, fun _ => rfl⟩
  | terms hvs => exact ⟨_, fun _ => rfl⟩
  | range hbounds => exact ⟨_, fun _ => rfl⟩

/-- **A test hides the documents without values.** -/
theorem accepts_eq_false (h : p.TestsAt path) {d : Document} (hd : d.LacksValueAt path) :
    p.accepts d = false := by
  obtain ⟨test, hrows⟩ := h.exists_rows_eq
  rw [accepts_of_leaf hrows d, anyValue, Document.fieldValues_eq_nil_iff.mpr hd]
  rfl

/-- No document that matches a test is without values. -/
theorem not_lacksValueAt (h : p.TestsAt path) {docs : List Document} {d : Document}
    (hd : d ∈ p.matching docs) : ¬ d.LacksValueAt path := by
  intro hlacks
  rw [matching_eq_filter, List.mem_filter, h.accepts_eq_false hlacks] at hd
  exact Bool.false_ne_true hd.2

end TestsAt

end Predicate

end GuardedSearch
