import GuardedSearch.Distribution

/-!
# Statistics

The statistics of a numeric field come from its distribution. Values that are no numbers do not
count, and neither do buckets without documents. If values have been left out of the distribution,
the statistics are approximate.
-/

namespace GuardedSearch

/-- The statistics of a numeric field. -/
structure Statistics where
  min : Double
  max : Double
  avg : Double
  sum : Double
  count : Nat
  approximate : Bool
  deriving DecidableEq

namespace Statistics

/-- The statistics of no values. -/
def none : Statistics := ⟨.zero, .zero, .zero, .zero, 0, false⟩

/-- What has been seen of a distribution. -/
structure Tally where
  min : Double
  max : Double
  sum : Double
  count : Nat

/-- Nothing has been seen. -/
def Tally.start : Tally := ⟨.infinite false, .infinite true, .zero, 0⟩

/-- The number and the count of a bucket that counts. -/
def counted? (b : Bucket) : Option (Double × Nat) :=
  match b.value.toDouble? with
  | some x => if b.count = 0 then .none else some (x, b.count)
  | .none => .none

/-- Adds a number and the count of the documents that have it. -/
def Tally.add (t : Tally) (entry : Double × Nat) : Tally where
  min := t.min.least entry.1
  max := t.max.greatest entry.1
  sum := t.sum.add (entry.1.mul (.ofInt entry.2))
  count := t.count + entry.2

/-- The statistics of what has been seen. -/
def Tally.statistics (t : Tally) (approximate : Bool) : Statistics :=
  if t.count = 0 then ⟨.zero, .zero, .zero, t.sum, 0, approximate⟩
  else ⟨t.min, t.max, t.sum.div (.ofInt t.count), t.sum, t.count, approximate⟩

/-- The statistics of a distribution. -/
def ofDistribution (d : Distribution) : Statistics :=
  ((d.buckets.filterMap counted?).foldl Tally.add Tally.start).statistics (d.other > 0)

/-- The statistics in JSON. -/
def toJson (s : Statistics) : Json :=
  .object [("min", .ofDouble s.min), ("max", .ofDouble s.max), ("avg", .ofDouble s.avg),
    ("sum", .ofDouble s.sum), ("count", .ofNat s.count), ("approximate", .bool s.approximate)]

end Statistics

end GuardedSearch
