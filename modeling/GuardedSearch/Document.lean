import GuardedSearch.Json.Decode
import GuardedSearch.SearchError

/-!
# Documents

A document is JSON with a number. A list of documents is searched in its order, which is also the
order of hits that nothing else orders.
-/

namespace GuardedSearch

/-- A document. The number plays no part in a search. -/
structure Document where
  id : Nat
  source : Json

namespace Document

/-- The number that a document states in its member `id`, if that is a natural number. -/
def statedId? (source : Json) : Option Nat :=
  match source.member? "id" with
  | some (.number (.whole n)) => if 0 ≤ n then some n.toNat else none
  | _ => none

/-- The documents of a list of sources. One that states no number has its position as its number. -/
def ofSources (sources : List Json) : List Document :=
  sources.zipIdx.map fun (source, position) => ⟨(statedId? source).getD position, source⟩

/-- Reads documents from the content of a file; there is no content without a file. -/
def load (content : Option String) : Except SearchError (List Document) :=
  match content with
  | none => .error .fileNotFound
  | some text =>
    match (Decoder.list Decoder.json).runText text with
    | .ok sources => .ok (ofSources sources)
    | .error e => .error (.json e)

end Document

end GuardedSearch
