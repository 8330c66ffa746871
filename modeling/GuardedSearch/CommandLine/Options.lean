import GuardedSearch.Text.Search

/-!
# Arguments of the command line

Arguments are the options of the program, then the name of a command, then the options of the
command. An option is given as `--name value` or as `--name=value`, at most once. Options of the
program that are not given are taken from environment variables.

## Main definitions

* `Options`, `Command`: what the command line asks for.
* `Options.ofArguments?`: the options that arguments and environment give, if they are well formed.
-/

namespace GuardedSearch

/-- What is to be done, with its options. -/
inductive Command where
  | search (entity : String) (request : Option String)
  | describe (entity : String)
  | policy (entity : String)
  deriving DecidableEq, Repr

/-- What the command line asks for. -/
structure Options where
  metadata : String
  documents : Option String
  settings : Option String
  printMetrics : Bool
  command : Command
  deriving DecidableEq, Repr

/-- The options that a list of arguments may begin with: those with a value, and those without. -/
structure OptionNames where
  valued : List String
  flags : List String

/-- The options that have been given, with the empty value for those without. -/
abbrev GivenOptions := List (String × String)

namespace GivenOptions

/-- Adds an option, unless it has been given. -/
def add? (given : GivenOptions) (name value : String) : Option GivenOptions :=
  if given.any (·.1 == name) then none else some ((name, value) :: given)

/-- The value of an option. -/
def value? (given : GivenOptions) (name : String) : Option String :=
  (given.find? (·.1 == name)).map (·.2)

/-- The value of an option, or else of an environment variable. -/
def valueOr? (given : GivenOptions) (environment : String → Option String)
    (name variableName : String) : Option String :=
  (given.value? name).or (environment variableName)

end GivenOptions

namespace Options

/-! ### Reading options -/

/-- What follows the two dashes of an option. -/
def optionBody? (argument : String) : Option (List Char) :=
  match argument.toList with
  | '-' :: '-' :: body => some body
  | _ => none

/-- Whether an argument looks like an option and not like a value. -/
def looksLikeOption (argument : String) : Bool :=
  match argument.toList with
  | '-' :: _ :: _ => true
  | _ => false

/-- The name of an option, and its value if it is given in the same argument. -/
def nameAndValue (body : List Char) : String × Option String :=
  match body.dropWhile (· != '=') with
  | [] => (String.ofList body, none)
  | _ :: value => (String.ofList (body.takeWhile (· != '=')), some (String.ofList value))

/-- Reads options up to the first argument that is none. Two dashes alone end the arguments. -/
def readOptions? (names : OptionNames) (given : GivenOptions) :
    List String → Option (GivenOptions × List String)
  | [] => some (given, [])
  | argument :: rest =>
    if !looksLikeOption argument then some (given, argument :: rest)
    else match optionBody? argument with
      | none => none
      | some [] => if rest.isEmpty then some (given, []) else none
      | some body =>
        match nameAndValue body, rest with
        | (name, some value), rest =>
          if name ∈ names.valued then
            (given.add? name value).bind fun given => readOptions? names given rest
          else none
        | (name, none), [] =>
          if name ∈ names.flags then (given.add? name "").map fun given => (given, []) else none
        | (name, none), next :: rest =>
          if name ∈ names.flags then
            (given.add? name "").bind fun given => readOptions? names given (next :: rest)
          else if name ∈ names.valued ∧ !looksLikeOption next then
            (given.add? name next).bind fun given => readOptions? names given rest
          else none

/-! ### The options of the program and of its commands -/

/-- The options of the program. -/
def programOptions : OptionNames :=
  ⟨["metadata", "documents", "settings"], ["print-metrics"]⟩

/-- The command of a name with its arguments. -/
def command? (name : String) (arguments : List String) : Option Command :=
  match name with
  | "search" => do
    let (given, []) ← readOptions? ⟨["entity", "request"], []⟩ [] arguments | none
    let request := given.value? "request"
    if request = some "" then none
    return .search (← given.value? "entity") request
  | "describe" => do
    let (given, []) ← readOptions? ⟨["entity"], []⟩ [] arguments | none
    return .describe (← given.value? "entity")
  | "policy" => do
    let (given, []) ← readOptions? ⟨["entity"], []⟩ [] arguments | none
    return .policy (← given.value? "entity")
  | _ => none

/-- Whether metrics are to be printed. -/
def printMetrics? (given : GivenOptions) (environment : String → Option String) : Option Bool :=
  match given.value? "print-metrics", environment "QUERYGATE_PRINT_METRICS" with
  | some _, _ => some true
  | none, none => some false
  | none, some "true" => some true
  | none, some "false" => some false
  | none, some _ => none

/-- What arguments and environment ask for, if they are well formed. Files must have names. -/
def ofArguments? (arguments : List String) (environment : String → Option String) :
    Option Options := do
  let (given, name :: rest) ← readOptions? programOptions [] arguments | none
  let command ← command? name rest
  let metadata ← given.valueOr? environment "metadata" "QUERYGATE_METADATA"
  let documents := given.valueOr? environment "documents" "QUERYGATE_DOCUMENTS"
  let settings := given.valueOr? environment "settings" "QUERYGATE_SETTINGS"
  let printMetrics ← printMetrics? given environment
  if metadata = "" ∨ documents = some "" ∨ settings = some "" then none
  return { metadata, documents, settings, printMetrics, command }

/-- The names of the files that the options mention. -/
def files (o : Options) : List String :=
  o.metadata :: o.documents.toList ++ o.settings.toList ++
    match o.command with
    | .search _ request => request.toList
    | .describe _ | .policy _ => []

end Options

end GuardedSearch
