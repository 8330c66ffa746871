import GuardedSearch.Literal

/-!
# Distributions of values

A distribution tells how many documents have each value of a field: the most frequent values in
buckets, and how much the buckets leave out.
-/

namespace GuardedSearch

/-- A value, and how many documents have it. -/
structure Bucket where
  value : Literal
  count : Nat
  deriving DecidableEq

/-- The most frequent values, and the sum of the counts of all other values. -/
structure Distribution where
  buckets : List Bucket
  other : Nat
  deriving DecidableEq

namespace Distribution

/-- A distribution without values. -/
def empty : Distribution := ⟨[], 0⟩

/-- The count of each value under its plain text. Of values with one text the last one counts. -/
def counts (d : Distribution) : Table Nat :=
  Table.ofList (d.buckets.map fun b => (b.value.plain, b.count))

end Distribution

end GuardedSearch
