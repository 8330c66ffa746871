import GuardedSearch.Distribution
import GuardedSearch.Document
import GuardedSearch.Document.Values

/-!
# The distribution of stored values

Values with the same plain text count as one value, and a document counts once for each of its
values. The value of a bucket is the first one found with its text. Buckets stand in descending
order of their counts, and those with the same count in ascending order of their texts.
-/

namespace GuardedSearch

/-- A value under its plain text. -/
structure TextedValue where
  text : String
  value : Literal
  deriving DecidableEq

namespace TextedValue

/-- Whether two values have the same text. -/
def sameText (v w : TextedValue) : Bool :=
  v.text == w.text

/-- The single values that a document has at a path, with each text once. -/
def ofDocument (path : String) (d : Document) : List TextedValue :=
  (((Json.fieldValues path d.source).filterMap Literal.ofJson?).map fun l =>
    ⟨l.plain, l⟩).eraseDupsBy sameText

/-- How often a text occurs in a list of values. -/
def occurrences (text : String) (values : List TextedValue) : Nat :=
  values.countP fun v => v.text == text

end TextedValue

/-- A bucket under the plain text of its value. -/
structure TextedBucket where
  text : String
  bucket : Bucket
  deriving DecidableEq

namespace TextedBucket

/-- Whether a bucket may stand before another one. -/
def before (a b : TextedBucket) : Bool :=
  b.bucket.count < a.bucket.count ||
    (a.bucket.count == b.bucket.count && a.text ≤ b.text)

/-- The buckets for values of documents, in the order of their first values. -/
def ofValues (values : List TextedValue) : List TextedBucket :=
  (values.eraseDupsBy TextedValue.sameText).map fun v =>
    ⟨v.text, v.value, TextedValue.occurrences v.text values⟩

end TextedBucket

namespace Distribution

/-- All buckets for the values of documents at a path, in their order. -/
def allBuckets (path : String) (docs : List Document) : List Bucket :=
  ((TextedBucket.ofValues (docs.flatMap (TextedValue.ofDocument path))).mergeSort
    TextedBucket.before).map TextedBucket.bucket

/-- The sum of the counts of buckets. -/
def totalCount (buckets : List Bucket) : Nat :=
  buckets.foldr (fun b total => b.count + total) 0

/-- The distribution with at most `cap` buckets. -/
def cut (cap : Nat) (buckets : List Bucket) : Distribution :=
  ⟨buckets.take cap, totalCount (buckets.drop cap)⟩

/-- The distribution of the values of documents at a path, in at most `cap` buckets. -/
def ofDocuments (path : String) (cap : Nat) (docs : List Document) : Distribution :=
  cut cap (allBuckets path docs)

end Distribution

end GuardedSearch
