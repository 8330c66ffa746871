import GuardedSearch.Condition.Reader
import GuardedSearch.Sorting

/-!
# Requests

A request for documents of one entity: free text, a filter, the facets and statistics that are
wanted, an order and a page. Everything may be left out.
-/

namespace GuardedSearch

/-- A request for documents of one entity. -/
structure Request where
  text : Option String
  filter : List Condition
  facets : List String
  statistics : List String
  sort : List SortField
  page : Option Nat
  size : Option Nat

/-- A request of which not all fields are given. -/
structure Request.Draft where
  text : Option (Option String)
  filter : Option (List Condition)
  facets : Option (List String)
  statistics : Option (List String)
  sort : Option (List SortField)
  page : Option (Option Nat)
  size : Option (Option Nat)

namespace Request

/-- The request for everything. -/
def blank : Request := ⟨none, [], [], [], [], none, none⟩

/-- How a request is decoded. -/
def record : Record Draft Request where
  title := "SearchRequest"
  fields := ["text", "filter", "facetKeys", "statsKeys", "sort", "page", "size"]
  canonical := fun key => key
  blank := ⟨none, none, none, none, none, none, none⟩
  fill := fun p d name r =>
    match name with
    | "text" => do
      let text ← Decoder.once name d.text (Decoder.optional Decoder.string p r)
      return { d with text }
    | "filter" => do
      let filter ← Decoder.once name d.filter (Decoder.list Condition.decoder p r)
      return { d with filter }
    | "facetKeys" => do
      let facets ← Decoder.once name d.facets (Decoder.list Decoder.string p r)
      return { d with facets }
    | "statsKeys" => do
      let statistics ← Decoder.once name d.statistics (Decoder.list Decoder.string p r)
      return { d with statistics }
    | "sort" => do
      let sort ← Decoder.once name d.sort (Decoder.list SortField.record.decode p r)
      return { d with sort }
    | "page" => do
      let page ← Decoder.once name d.page (Decoder.optional (Decoder.natural "usize") p r)
      return { d with page }
    | "size" => do
      let size ← Decoder.once name d.size (Decoder.optional (Decoder.natural "usize") p r)
      return { d with size }
    | _ => return d
  complete := fun d => .ok {
    text := d.text.join
    filter := d.filter.getD []
    facets := d.facets.getD []
    statistics := d.statistics.getD []
    sort := d.sort.getD []
    page := d.page.join
    size := d.size.join }

/-- The request that a value is. -/
def ofJson (v : Json) : Except DecodeError Request :=
  record.decode.runJson v

/-- The request that a text is. -/
def ofText (text : String) : Except DecodeError Request :=
  record.decode.runText text

end Request

end GuardedSearch
