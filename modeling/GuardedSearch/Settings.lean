import GuardedSearch.SearchError

/-!
# Settings

Limits on requests and answers. A file of settings gives any of them; those it does not give keep
their defaults.
-/

namespace GuardedSearch

/-- Limits on requests and answers. -/
structure Settings where
  facetCap : Nat
  statsCap : Nat
  defaultPageSize : Nat
  maxPageSize : Nat
  maxDepth : Nat
  deriving DecidableEq, Repr

/-- Settings of which not all are given. -/
structure Settings.Draft where
  facetCap : Option Nat
  statsCap : Option Nat
  defaultPageSize : Option Nat
  maxPageSize : Option Nat
  maxDepth : Option Nat

namespace Settings

/-- The settings that are in force where nothing else is said. -/
def standard : Settings := ⟨20, 20, 10, 1000, 32⟩

/-- How settings are decoded. -/
def record : Record Draft Settings where
  title := "SearchSettings"
  fields := ["facet_bucket_cap", "stats_bucket_cap", "default_page_size", "max_page_size",
    "max_condition_depth"]
  canonical := fun key => key
  blank := ⟨none, none, none, none, none⟩
  fill := fun p d name r =>
    match name with
    | "facet_bucket_cap" => do
      let facetCap ← Decoder.once name d.facetCap (Decoder.natural "usize" p r)
      return { d with facetCap }
    | "stats_bucket_cap" => do
      let statsCap ← Decoder.once name d.statsCap (Decoder.natural "usize" p r)
      return { d with statsCap }
    | "default_page_size" => do
      let defaultPageSize ← Decoder.once name d.defaultPageSize (Decoder.natural "usize" p r)
      return { d with defaultPageSize }
    | "max_page_size" => do
      let maxPageSize ← Decoder.once name d.maxPageSize (Decoder.natural "usize" p r)
      return { d with maxPageSize }
    | "max_condition_depth" => do
      let maxDepth ← Decoder.once name d.maxDepth (Decoder.natural "usize" p r)
      return { d with maxDepth }
    | _ => return d
  complete := fun d => .ok {
    facetCap := d.facetCap.getD standard.facetCap
    statsCap := d.statsCap.getD standard.statsCap
    defaultPageSize := d.defaultPageSize.getD standard.defaultPageSize
    maxPageSize := d.maxPageSize.getD standard.maxPageSize
    maxDepth := d.maxDepth.getD standard.maxDepth }

/-- The settings in JSON. -/
def toJson (s : Settings) : Json :=
  .object [("facet_bucket_cap", .ofNat s.facetCap), ("stats_bucket_cap", .ofNat s.statsCap),
    ("default_page_size", .ofNat s.defaultPageSize), ("max_page_size", .ofNat s.maxPageSize),
    ("max_condition_depth", .ofNat s.maxDepth)]

/-- Why the settings cannot be used, if they cannot. -/
def fault? (s : Settings) : Option ConfigurationFault :=
  if s.facetCap = 0 ∨ s.statsCap = 0 then some .noBuckets
  else if s.defaultPageSize = 0 ∨ s.defaultPageSize > s.maxPageSize then
    some (.defaultPageSize s.defaultPageSize s.maxPageSize)
  else if s.maxDepth = 0 then some .noDepth
  else none

/-- Refuses settings that cannot be used. -/
def validate (s : Settings) : Except SearchError Unit :=
  match s.fault? with
  | some fault => .error (.configuration fault)
  | none => .ok ()

/-- Reads settings from the content of a file; there is no content without a file. -/
def load (content : Option String) : Except SearchError Settings :=
  match content with
  | none => .error .fileNotFound
  | some text =>
    match record.decode.runText text with
    | .error e => .error (.json e)
    | .ok s =>
      match s.validate with
      | .ok () => .ok s
      | .error e => .error e

/-! ### Pages -/

/-- A page of hits: its number, counted from 0, and how many hits a page has. -/
structure Page where
  number : Nat
  size : Nat
  deriving DecidableEq, Repr

/-- The page that a request gets. -/
def page (s : Settings) (number size : Option Nat) : Except SearchError Page :=
  let size := size.getD s.defaultPageSize
  if size = 0 ∨ size > s.maxPageSize then .error (.invalidRequest (.pageSize s.maxPageSize size))
  else .ok ⟨number.getD 0, size⟩

end Settings

end GuardedSearch
