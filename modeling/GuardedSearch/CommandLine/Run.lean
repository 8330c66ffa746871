import GuardedSearch.CommandLine.Options
import GuardedSearch.Condition.Printer
import GuardedSearch.Service

/-!
# Running a command

A command is run on the contents of the files that it names and of the standard input. It prints its
answer as JSON, and then the metrics if they are wanted; or it fails with a message and the causes
behind it.
-/

namespace GuardedSearch

/-! ### Failures -/

/-- Why a command fails: a message, and the causes behind it from the outermost on. -/
structure Failure where
  message : String
  causes : List String
  deriving DecidableEq, Repr

namespace Failure

/-- The failure of an error. -/
def ofError (e : SearchError) : Failure :=
  ⟨e.message, e.cause?.toList⟩

/-- The failure of a step that is described by a message, because of an error. -/
def within (message : String) (e : SearchError) : Failure :=
  ⟨message, e.message :: e.cause?.toList⟩

/-- A cause, its lines indented; its number goes before the first of them. -/
def causeText (number : Option Nat) (cause : String) : String :=
  let first := match number with
    | some n => s!"    {n}: "
    | none => "    "
  let further := match number with
    | some _ => "\n       "
    | none => "\n    "
  first ++ further.intercalate
    ((Text.pieces '\n' cause.toList).map String.ofList)

/-- The causes, numbered if there are several. -/
def causeTexts (causes : List String) : List String :=
  match causes with
  | [cause] => [causeText none cause]
  | causes => causes.zipIdx.map fun (cause, n) => causeText (some n) cause

/-- The failure as it is printed. -/
def text (f : Failure) : String :=
  "\n".intercalate (s!"Error: {f.message}" ::
    if f.causes.isEmpty then [] else "" :: "Caused by:" :: causeTexts f.causes)

end Failure

/-! ### Commands -/

/-- What a command can read: files by their names, and the standard input. -/
structure CommandInput where
  file? : String → Option String
  standardInput : String

namespace Options

/-- The cause of failure, if there is one, as a failure of a step. -/
def step {α : Type} (message : String) (r : Except SearchError α) : Except Failure α :=
  match r with
  | .ok a => .ok a
  | .error e => .error (.within message e)

/-- The cause of failure, if there is one, as a failure of its own. -/
def orFail {α : Type} (r : Except SearchError α) : Except Failure α :=
  match r with
  | .ok a => .ok a
  | .error e => .error (.ofError e)

/-- The request of a search, from its file or else from the standard input. -/
def readRequest (input : CommandInput) (request : Option String) :
    Except Failure Request := do
  let text ← match request with
    | none => pure input.standardInput
    | some path =>
      match input.file? path with
      | some text => pure text
      | none => throw ⟨s!"reading request {path}", [SearchError.missingFile]⟩
  match Request.ofText text with
  | .ok r => return r
  | .error e => throw ⟨"parsing search request", [e.message]⟩

/-- The service that the options describe. -/
def service (o : Options) (input : CommandInput) : Except Failure Service := do
  let settings ← match o.settings with
    | none => pure Settings.standard
    | some path => orFail (Settings.load (input.file? path))
  let store ← step s!"loading metadata from {o.metadata}"
    (CatalogStore.ofSource (.ofFile (input.file? o.metadata)))
  let documents ← match o.documents with
    | none => pure []
    | some path => step s!"loading documents from {path}" (Document.load (input.file? path))
  return ⟨store, .ofDocuments documents, settings, some .start⟩

/-- The answer of the command, and the service after it. -/
def answer (o : Options) (input : CommandInput) (s : Service) : Except Failure (Json × Service) :=
  match o.command with
  | .search entity request => do
    let r ← readRequest input request
    let (response, s) := s.search entity r
    return ((← orFail response).toJson, s)
  | .describe entity => do
    let properties ← orFail (s.describe entity)
    return (.array (properties.map PropertyDescription.toJson), s)
  | .policy entity => do
    let conditions ← orFail (s.policy entity)
    return (.array (conditions.map Condition.toJson), s)

/-- The lines that the command prints. -/
def run (o : Options) (input : CommandInput) : Except Failure (List String) := do
  let (answer, s) ← o.answer input (← o.service input)
  let metrics := if o.printMetrics then (s.metrics.map Metrics.lines).getD [] else []
  return answer.toIndented :: metrics

end Options

end GuardedSearch
