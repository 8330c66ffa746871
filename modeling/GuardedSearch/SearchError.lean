import GuardedSearch.AccessRule
import GuardedSearch.DataType

/-!
# Errors

Everything that can go wrong has a constructor with the data of the case, and one wording. An error
also has a *kind*, by which failures are counted.
-/

namespace GuardedSearch

/-- Why metadata or settings cannot be used. -/
inductive ConfigurationFault where
  | duplicateEntity (entity : String)
  | duplicateProperty (entity property : String)
  | bridgeWithoutTarget (entity property : String)
  | unknownBridgeTarget (entity property target : String)
  | repeatedBridge (entity target : String)
  | unknownRuleTarget (rule target : String)
  | unknownRuleEntity (rule entity : String)
  | unknownRuleProperty (rule : String) (property : PropertyReference)
  | ruleArity (rule : String) (count : Nat) (operator : RuleOperator)
  | ruleWithoutValue (rule : String) (operator : RuleOperator)
  | noBuckets
  | defaultPageSize (default most : Nat)
  | noDepth
  deriving DecidableEq, Repr

/-- The wording of a configuration fault. -/
def ConfigurationFault.message : ConfigurationFault → String
  | duplicateEntity e => s!"duplicate entity name '{e}'"
  | duplicateProperty e p => s!"duplicate property '{p}' on entity '{e}'"
  | bridgeWithoutTarget e p => s!"property '{e}.{p}' is an ENTITY without a represented entity"
  | unknownBridgeTarget e p target => s!"bridge '{e}.{p}' points at unknown entity '{target}'"
  | repeatedBridge e target => s!"entity '{e}' declares more than one bridge to '{target}'"
  | unknownRuleTarget rule target => s!"rule '{rule}' targets unknown entity '{target}'"
  | unknownRuleEntity rule e => s!"rule '{rule}' references unknown entity '{e}'"
  | unknownRuleProperty rule key =>
    s!"rule '{rule}' references unknown property '{key.entity}.{key.property}'"
  | ruleArity rule count operator =>
    s!"rule '{rule}' has {count} values for operator {operator.name}"
  | ruleWithoutValue rule operator => s!"rule '{rule}' has no value for operator {operator.name}"
  | noBuckets => "bucket caps must be at least 1"
  | defaultPageSize default most =>
    s!"default page size {default} must be between 1 and {most}"
  | noDepth => "max condition depth must be at least 1"

/-- Why a request cannot be answered as it stands. -/
inductive RequestFault where
  | conditionNotObject
  | invalidCondition (e : DecodeError)
  | filterNotList
  | filterNotJson
  | pageSize (most given : Nat)
  | tooDeep (most : Nat)
  | otherEntity (secured compiled : String)
  | entitySort (field : String)
  | entityFacet (key : String)
  | facetClash (key : String)

/-- The wording of a request fault. -/
def RequestFault.message : RequestFault → String
  | conditionNotObject => "Condition must be a JSON object"
  | invalidCondition e => s!"Invalid condition: {e.message}"
  | filterNotList => "Filter must be an array of conditions"
  | filterNotJson => "Invalid JSON"
  | pageSize most given => s!"page size must be between 1 and {most}, got {given}"
  | tooDeep most => s!"condition nesting exceeds maximum depth of {most}"
  | otherEntity secured compiled =>
    s!"filter secured for '{secured}' cannot be compiled for '{compiled}'"
  | entitySort field => s!"cannot sort on entity property '{field}'"
  | entityFacet key => s!"cannot facet on entity property '{key}'"
  | facetClash key => s!"facet key '{key}' collides with a stats aggregation name"

/-- Why loading or searching fails. -/
inductive SearchError where
  | fieldNotFound (field entity : String)
  | typeMismatch (field : String) (expected : DataType) (value : String)
  | configuration (fault : ConfigurationFault)
  | backendUnavailable (reason : String)
  | entityNotFound (name : String)
  | invalidRequest (fault : RequestFault)
  | json (e : DecodeError)
  | fileNotFound

namespace SearchError

/-- The wording of a missing file. -/
def missingFile : String := "No such file or directory (os error 2)"

/-- The wording of an error. -/
def message : SearchError → String
  | fieldNotFound field entity =>
    s!"Field not found: '{field}' is not reachable from entity '{entity}'"
  | typeMismatch field expected value =>
    s!"Type mismatch on '{field}': cannot coerce {value} to {expected.name}"
  | configuration fault => s!"Configuration error: {fault.message}"
  | backendUnavailable reason => s!"Search backend unavailable: {reason}"
  | entityNotFound name => s!"Entity not found: {name}"
  | invalidRequest fault => s!"Invalid request: {fault.message}"
  | json e => s!"JSON error: {e.message}"
  | fileNotFound => s!"IO error: {missingFile}"

/-- The wording of what lies behind an error, where that is an error of its own. -/
def cause? : SearchError → Option String
  | json e => some e.message
  | fileNotFound => some missingFile
  | _ => none

/-- The kinds of errors. -/
def kind : SearchError → String
  | fieldNotFound _ _ => "field_not_found"
  | typeMismatch _ _ _ => "type_mismatch"
  | configuration _ => "configuration"
  | backendUnavailable _ => "backend_unavailable"
  | entityNotFound _ => "entity_not_found"
  | invalidRequest _ => "invalid_request"
  | json _ => "json"
  | fileNotFound => "io"

/-- Whether the same search may succeed later. -/
def isRetriable : SearchError → Bool
  | backendUnavailable _ => true
  | _ => false

end SearchError

end GuardedSearch
