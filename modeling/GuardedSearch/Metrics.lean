import GuardedSearch.Search

/-!
# Metrics

Searches are counted: those that succeed by entity, in lower case, and those that fail by the kind
of error. The conditions that policies added are counted for all searches that were admitted, and
the generation is that of the last search that succeeded.

Counts are exact however large they are. Counters that are doubles have the same values as long as
these are below 2 ^ 53; from there on, counting one more may leave a double as it is.

The counts are printed as text, in families with a line of help and a line with the type of each.
The times of searches depend on the machine and are not kept; their number is.
-/

namespace GuardedSearch

/-- What has been counted. -/
structure Metrics where
  searches : Table Nat
  errors : Table Nat
  policyConditions : Nat
  generation : Nat
  deriving DecidableEq, Repr

namespace Metrics

/-- Nothing has been counted. -/
def start : Metrics := ⟨[], [], 0, 0⟩

/-- One more under a label. -/
def increment (label : String) (counts : Table Nat) : Table Nat :=
  Table.put label ((Table.value? label counts).getD 0 + 1) counts

/-- Counts a search of an entity in the catalog of a generation. -/
def record (m : Metrics) (entity : String) (generation : Nat) (outcome : SearchOutcome) : Metrics :=
  let m := { m with policyConditions := m.policyConditions + outcome.policySize.getD 0 }
  match outcome.response with
  | .ok _ => { m with searches := increment (Text.lower entity) m.searches, generation }
  | .error e => { m with errors := increment e.kind m.errors }

/-! ### Printing -/

/-- One character of a label. -/
def escape (c : Char) : List Char :=
  if c = '\\' then ['\\', '\\']
  else if c = '"' then ['\\', '"']
  else if c = '\n' then ['\\', 'n']
  else [c]

/-- A label between quotes. -/
def quoted (label : String) : String :=
  String.ofList ('"' :: label.toList.flatMap escape ++ ['"'])

/-- The lines of a family: its help, its type, and its samples. -/
def family (name help type : String) (samples : List String) : List String :=
  if samples.isEmpty then []
  else s!"# HELP {name} {help}" :: s!"# TYPE {name} {type}" :: samples

/-- The samples of a family with one label. -/
def labelled (name label : String) (counts : Table Nat) : List String :=
  counts.map fun (value, count) =>
    name ++ "\x7b" ++ label ++ "=" ++ quoted value ++ s!"\x7d {count}"

/-- All families in the order of their names. -/
def lines (m : Metrics) : List String :=
  family "querygate_dac_conditions_injected_total"
      "Total number of access-rule conditions added to searches" "counter"
      [s!"querygate_dac_conditions_injected_total {m.policyConditions}"] ++
    family "querygate_metadata_generation"
      "Generation of the metadata snapshot used by the last search" "gauge"
      [s!"querygate_metadata_generation {m.generation}"] ++
    family "querygate_search_errors_total" "Total number of failed searches by error kind" "counter"
      (labelled "querygate_search_errors_total" "kind" m.errors) ++
    family "querygate_search_latency_seconds" "Search latency including the backend call"
      "histogram" (labelled "querygate_search_latency_seconds_count" "entity" m.searches) ++
    family "querygate_searches_total" "Total number of searches by entity" "counter"
      (labelled "querygate_searches_total" "entity" m.searches)

end Metrics

end GuardedSearch
