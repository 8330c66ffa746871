import GuardedSearch.Literal
import GuardedSearch.Text.Case

/-!
# Predicates

A predicate is a filter whose names have been resolved to paths and whose values have the types of
the properties. It is what a backend evaluates.

## Main definitions

* `Bounds`, `Bounds.containsBy`: bounds on a value, and whether a value keeps to them.
* `Predicate`, `Predicate.all`: the tree, and the conjunction of a list.
* `Predicate.toJson`: the tree in JSON.
-/

namespace GuardedSearch

/-! ### Bounds -/

/-- Bounds on a value, any of which may be missing. -/
structure Bounds where
  gte : Option Literal
  gt : Option Literal
  lte : Option Literal
  lt : Option Literal
  deriving DecidableEq

namespace Bounds

/-- No bounds. -/
def none : Bounds := ⟨.none, .none, .none, .none⟩

/-- Whether there are no bounds. -/
def isEmpty (b : Bounds) : Bool :=
  b.gte.isNone && b.gt.isNone && b.lte.isNone && b.lt.isNone

/-- Whether a value keeps to one bound, if it is there; a value that cannot be compared does not. -/
def keeps (compare : Literal → Option Ordering) (accept : Ordering → Bool)
    (bound : Option Literal) : Bool :=
  match bound with
  | some l => (compare l).any accept
  | .none => true

/-- Whether a value keeps to all bounds, where `compare` tells how it lies to a literal. -/
def containsBy (b : Bounds) (compare : Literal → Option Ordering) : Bool :=
  keeps compare Ordering.isGE b.gte && keeps compare Ordering.isGT b.gt &&
    keeps compare Ordering.isLE b.lte && keeps compare Ordering.isLT b.lt

/-- Whether a double keeps to all bounds. -/
def containsDouble (b : Bounds) (x : Double) : Bool :=
  b.containsBy fun l => l.toDouble?.bind x.compare?

/-- The bounds that are there, with their names. -/
def members (b : Bounds) : List (String × Literal) :=
  (b.gte.map ("gte", ·)).toList ++ (b.gt.map ("gt", ·)).toList ++
    (b.lte.map ("lte", ·)).toList ++ (b.lt.map ("lt", ·)).toList

end Bounds

/-! ### The tree -/

/-- A predicate on documents. The texts of `startsWith` and `contains` are in lower case. A group
asks for all of `must`, for at least `minimum` of `should` unless that is empty, and for none of
`mustNot`. -/
inductive Predicate where
  | matchAll
  | group (must should mustNot : List Predicate) (minimum : Nat)
  | term (path : String) (v : Literal)
  | terms (path : String) (vs : List Literal)
  | startsWith (path start : String)
  | contains (path part : String)
  | range (path : String) (bounds : Bounds)
  | fullText (paths : List String) (query : String)
  deriving Inhabited

namespace Predicate

/-- A predicate for the texts that begin with a text, in whatever case. -/
def beginsWithText (path start : String) : Predicate :=
  startsWith path (Text.lower start)

/-- A predicate for the texts that contain a text, in whatever case. -/
def containsText (path part : String) : Predicate :=
  contains path (Text.lower part)

/-- A group that asks for all of a list. -/
def all (clauses : List Predicate) : Predicate :=
  group clauses [] [] 0

/-- A group that asks for at least one of a list. -/
def any (clauses : List Predicate) : Predicate :=
  group [] clauses [] 1

/-- A group that asks for the opposite. -/
def no (clause : Predicate) : Predicate :=
  group [] [] [clause] 0

/-- The name of the kind of predicate. -/
def kind : Predicate → String
  | matchAll => "match_all"
  | group _ _ _ _ => "bool"
  | term _ _ => "term"
  | terms _ _ => "terms"
  | startsWith _ _ => "prefix"
  | contains _ _ => "contains"
  | range _ _ => "range"
  | fullText _ _ => "full_text"

mutual

/-- How many nodes the tree has. -/
def nodeCount : Predicate → Nat
  | group must should mustNot _ =>
    1 + (nodeCountOf must + nodeCountOf should + nodeCountOf mustNot)
  | matchAll | term _ _ | terms _ _ | startsWith _ _ | contains _ _ | range _ _ | fullText _ _ => 1

/-- How many nodes the trees of a list have. -/
def nodeCountOf : List Predicate → Nat
  | [] => 0
  | p :: rest => nodeCount p + nodeCountOf rest

end

/-! ### Predicates in JSON -/

/-- A member with a list, left out if the list is empty. -/
def listMember (name : String) (items : List Json) : List (String × Json) :=
  if items.isEmpty then [] else [(name, .array items)]

mutual

/-- A predicate in JSON. -/
def toJson : Predicate → Json
  | matchAll => .string "match_all"
  | group must should mustNot minimum =>
    .object [("bool", .object (listMember "must" (toJsonList must) ++
      listMember "should" (toJsonList should) ++ listMember "must_not" (toJsonList mustNot) ++
      [("minimum_should_match", .ofNat minimum)]))]
  | term path v => .object [("term", .object [("path", .string path), ("value", v.toJson)])]
  | terms path vs =>
    .object [("terms", .object [("path", .string path),
      ("values", .array (vs.map Literal.toJson))])]
  | startsWith path start =>
    .object [("prefix", .object [("path", .string path), ("prefix", .string start)])]
  | contains path part =>
    .object [("contains", .object [("path", .string path), ("substring", .string part)])]
  | range path bounds =>
    .object [("range", .object [("path", .string path),
      ("bounds", .object (bounds.members.map fun (name, l) => (name, l.toJson)))])]
  | fullText paths query =>
    .object [("full_text", .object [("fields", .ofStrings paths), ("query", .string query)])]

/-- A list of predicates in JSON. -/
def toJsonList : List Predicate → List Json
  | [] => []
  | p :: rest => toJson p :: toJsonList rest

end

end Predicate

end GuardedSearch
