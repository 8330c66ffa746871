import GuardedSearch.Document
import GuardedSearch.Document.Comparison
import GuardedSearch.Document.Values
import GuardedSearch.Predicate
import GuardedSearch.RowSet
import GuardedSearch.Text.Word

/-!
# The rows that a predicate matches

A predicate is evaluated on a list of documents as a whole, to the set of the rows that match. The
leaves look at each document; groups combine sets.
-/

namespace GuardedSearch

namespace Predicate

/-! ### Leaves -/

/-- Whether a stored value keeps to bounds. -/
def withinBounds (bounds : Bounds) (v : Json) : Bool :=
  bounds.containsBy v.compareTo?

/-- Whether the text of a stored value, in lower case, passes a test. -/
def textPasses (test : String → Bool) (v : Json) : Bool :=
  v.text?.any fun s => test (Text.lower s)

/-- Whether a stored value has one of the words. -/
def hasWord (wanted : List String) (v : Json) : Bool :=
  v.text?.any fun s => (Text.words s).any fun word => word ∈ wanted

/-- Whether a document has a value at a path that passes a test. -/
def anyValue (path : String) (test : Json → Bool) (d : Document) : Bool :=
  (Json.fieldValues path d.source).any test

/-- Whether a document has one of the words of a query at one of the paths. -/
def hasQuery (paths : List String) (query : String) (d : Document) : Bool :=
  paths.any fun path => anyValue path (hasWord (Text.words query)) d

/-! ### Groups -/

/-- The rows of `n` that at least `minimum` of the sets have. No sets, or a minimum of zero, ask for
nothing; a minimum of one asks for the union. -/
def quorum (n minimum : Nat) (sets : List RowSet) : RowSet :=
  if sets.isEmpty ∨ minimum = 0 then .upTo n
  else if minimum = 1 then sets.foldl RowSet.union .none
  else .counted n minimum sets

/-- The rows of `n` that a group matches, from the rows that its clauses match. -/
def combine (n : Nat) (must should mustNot : List RowSet) (minimum : Nat) : RowSet :=
  mustNot.foldl RowSet.diff ((must.foldl RowSet.inter (.upTo n)).inter (quorum n minimum should))

mutual

/-- The rows that match. -/
def rows (docs : List Document) : Predicate → RowSet
  | matchAll => .upTo docs.length
  | group must should mustNot minimum =>
    combine docs.length (rowsOfEach docs must) (rowsOfEach docs should) (rowsOfEach docs mustNot)
      minimum
  | term path v => .ofTest (anyValue path fun w => w.equals v) docs
  | terms path vs => .ofTest (anyValue path fun w => vs.any w.equals) docs
  | startsWith path start => .ofTest (anyValue path (textPasses (Text.beginsWith · start))) docs
  | contains path part => .ofTest (anyValue path (textPasses (Text.contains · part))) docs
  | range path bounds => .ofTest (anyValue path (withinBounds bounds)) docs
  | fullText paths query => .ofTest (hasQuery paths query) docs

/-- The rows that each predicate of a list matches. -/
def rowsOfEach (docs : List Document) : List Predicate → List RowSet
  | [] => []
  | p :: rest => rows docs p :: rowsOfEach docs rest

end

/-- The documents that match, in their order. -/
def matching (p : Predicate) (docs : List Document) : List Document :=
  (p.rows docs).select docs

end Predicate

end GuardedSearch
