import GuardedSearch.Document
import GuardedSearch.Document.Comparison
import GuardedSearch.Document.Values
import GuardedSearch.Sorting

/-!
# The order of hits

Documents are ordered by one value for each sort key: the least of their values at the path for an
ascending order, the greatest for a descending one. A document without such a value comes after all
that have one, in either direction. Documents that differ in no key keep their order.
-/

namespace GuardedSearch

namespace Json

/-- The first of the least values of a list. -/
def least? : List Json → Option Json
  | [] => none
  | v :: rest => some (rest.foldl (fun best w => if order w best == .lt then w else best) v)

/-- The last of the greatest values of a list. -/
def greatest? : List Json → Option Json
  | [] => none
  | v :: rest => some (rest.foldl (fun best w => if order w best == .lt then best else w) v)

end Json

namespace SortKey

/-- The value that a document is ordered by. -/
def value? (k : SortKey) (d : Document) : Option Json :=
  let values := (Json.fieldValues k.path d.source).filter fun v => !v.isObject
  match k.direction with
  | .ascending => Json.least? values
  | .descending => Json.greatest? values

/-- How two documents lie to each other by one key. -/
def compare (k : SortKey) (a b : Document) : Ordering :=
  match k.value? a, k.value? b with
  | some v, some w =>
    match k.direction with
    | .ascending => Json.order v w
    | .descending => Json.order w v
  | some _, none => .lt
  | none, some _ => .gt
  | none, none => .eq

/-- How two documents lie to each other by a list of keys. -/
def compareBy (keys : List SortKey) (a b : Document) : Ordering :=
  keys.foldr (fun k rest => (k.compare a b).then rest) .eq

/-- Documents in the order of a list of keys. -/
def sort (keys : List SortKey) (docs : List Document) : List Document :=
  docs.mergeSort fun a b => (compareBy keys a b).isLE

end SortKey

end GuardedSearch
