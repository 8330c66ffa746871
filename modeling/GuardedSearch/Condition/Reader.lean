import GuardedSearch.Condition

/-!
# Reading conditions

A condition in JSON is an object with twelve attributes, none of them required: a field with its
operators, and conditions combined by `and`, `or` and `not`. Several of these in one object all have
to hold. An attribute that is null counts as absent. A condition inside another may also be an array
of its attributes in their order; other attributes are refused.

## Main definitions

* `Condition.Draft`, `Condition.Draft.complete`: the attributes, and the condition that they make.
* `Condition.decoder`: the decoder of a condition.
* `Condition.ofJson`, `Condition.listOfJson`, `Condition.listOfText`: conditions as a client gives
  them, with the faults that the client is told.
-/

namespace GuardedSearch

/-- The attributes of a condition that have been read. An attribute that was null is there, but
without a value. -/
structure Condition.Draft where
  field : Option (Option String)
  eq : Option (Option Literal)
  contains : Option (Option String)
  startsWith : Option (Option String)
  oneOf : Option (Option (List Literal))
  gt : Option (Option Literal)
  lt : Option (Option Literal)
  gte : Option (Option Literal)
  lte : Option (Option Literal)
  all : Option (Option (List Condition))
  any : Option (Option (List Condition))
  not : Option (Option Condition)

namespace Condition

namespace Draft

/-- No attributes. -/
def blank : Draft :=
  ⟨none, none, none, none, none, none, none, none, none, none, none, none⟩

/-- The names of the attributes in their order. -/
def attributes : List String :=
  ["field", "eq", "contains", "startsWith", "in", "gt", "lt", "gte", "lte", "and", "or", "not"]

/-! ### The condition that the attributes make -/

/-- The operators among the attributes, in the order in which they apply. -/
def operators (d : Draft) : List Operator :=
  (d.eq.join.map Operator.eq).toList ++ (d.contains.join.map Operator.contains).toList ++
    (d.startsWith.join.map Operator.startsWith).toList ++
    (d.oneOf.join.map Operator.oneOf).toList ++ (d.gt.join.map Operator.gt).toList ++
    (d.gte.join.map Operator.gte).toList ++ (d.lt.join.map Operator.lt).toList ++
    (d.lte.join.map Operator.lte).toList

/-- The conditions that all have to hold. -/
def parts (d : Draft) : List Condition :=
  (d.all.join.map Condition.all).toList ++ (d.any.join.map Condition.any).toList ++
    (d.not.join.map Condition.not).toList ++
    (d.field.join.map fun name => Condition.field name d.operators).toList

/-- The condition; operators want a field to apply to. -/
def complete (d : Draft) : Except DecodeError Condition :=
  match d.field.join, d.operators with
  | none, operator :: _ => .error (.operatorWithoutField operator.name)
  | _, _ =>
    match d.parts with
    | [part] => .ok part
    | parts => .ok (.all parts)

/-! ### Filling -/

/-- Fills in one attribute. What the tree is as a list of conditions or as a condition is computed
only if the attribute wants it. -/
def fill (p : Place) (d : Draft) (name : String) (r : Raw)
    (parts : Unit → Except DecodeError (List Condition))
    (part : Unit → Except DecodeError Condition) : Except DecodeError Draft :=
  match name with
  | "field" => do
    let field ← Decoder.once name d.field (Decoder.optional Decoder.string p r)
    return { d with field }
  | "eq" => do
    let eq ← Decoder.once name d.eq (Decoder.optional Literal.decoder p r)
    return { d with eq }
  | "contains" => do
    let contains ← Decoder.once name d.contains (Decoder.optional Decoder.string p r)
    return { d with contains }
  | "startsWith" => do
    let startsWith ← Decoder.once name d.startsWith (Decoder.optional Decoder.string p r)
    return { d with startsWith }
  | "in" => do
    let oneOf ← Decoder.once name d.oneOf
      (Decoder.optional (Decoder.list Literal.decoder) p r)
    return { d with oneOf }
  | "gt" => do
    let gt ← Decoder.once name d.gt (Decoder.optional Literal.decoder p r)
    return { d with gt }
  | "lt" => do
    let lt ← Decoder.once name d.lt (Decoder.optional Literal.decoder p r)
    return { d with lt }
  | "gte" => do
    let gte ← Decoder.once name d.gte (Decoder.optional Literal.decoder p r)
    return { d with gte }
  | "lte" => do
    let lte ← Decoder.once name d.lte (Decoder.optional Literal.decoder p r)
    return { d with lte }
  | "and" => do
    let all ← Decoder.once name d.all (r.unlessNull parts)
    return { d with all }
  | "or" => do
    let any ← Decoder.once name d.any (r.unlessNull parts)
    return { d with any }
  | "not" => do
    let not ← Decoder.once name d.not (r.unlessNull part)
    return { d with not }
  | _ => .error (.unknownField name attributes)

end Draft

mutual

/-- The decoder of a condition. -/
def decoder (p : Place) : Raw → Except DecodeError Condition
  | .object members cut => do
    let inner ← p.enter
    let draft ← decodeMembers inner .blank members
    Place.notJson (Raw.atEnd Cut.asked cut)
    draft.complete
  | .array items cut => do
    let inner ← p.enter
    let (draft, rest) ← decodeItems inner .blank Draft.attributes items
    if rest.isEmpty then
      let told := if items.length < Draft.attributes.length then Cut.asked else Cut.closing
      Place.notJson (Raw.atEnd told cut)
      draft.complete
    else match p.origin with
      | .text => throw (.notJson .trailingCharacters)
      | .value => throw (.invalidLength items.length "fewer elements in array")
  | r => .error (r.mismatch "struct RawCondition")

/-- The decoder of a list of conditions. -/
def decodeList (p : Place) : Raw → Except DecodeError (List Condition)
  | .array items cut => do
    let inner ← p.enter
    let parts ← decodeParts inner items
    Place.notJson (Raw.atEnd Cut.asked cut)
    return parts
  | r => .error (r.mismatch "a sequence")

/-- The conditions of a list. -/
def decodeParts (p : Place) : List Raw → Except DecodeError (List Condition)
  | [] => .ok []
  | r :: rest => do
    let c ← decoder p r
    let cs ← decodeParts p rest
    return c :: cs

/-- Fills in the attributes of an object. -/
def decodeMembers (p : Place) (draft : Draft) :
    List (Raw.Name × Raw) → Except DecodeError Draft
  | [] => .ok draft
  | (.error e, _) :: _ => .error (.notJson e)
  | (.ok name, r) :: rest => do
    let draft ← draft.fill p name r (fun _ => decodeList p r) (fun _ => decoder p r)
    decodeMembers p draft rest

/-- Fills in the attributes of an array, and gives back the items that are left over. -/
def decodeItems (p : Place) (draft : Draft) :
    (names : List String) → List Raw → Except DecodeError (Draft × List Raw)
  | name :: names, r :: rest => do
    let draft ← draft.fill p name r (fun _ => decodeList p r) (fun _ => decoder p r)
    decodeItems p draft names rest
  | [], rest => .ok (draft, rest)
  | _, [] => .ok (draft, [])

end

/-! ### Conditions as a client gives them -/

/-- The condition that a value is; outside of another one it has to be an object. -/
def ofJson (v : Json) : Except RequestFault Condition :=
  if v.isObject then
    match Decoder.runJson decoder v with
    | .ok c => .ok c
    | .error e => .error (.invalidCondition e)
  else
    .error .conditionNotObject

/-- The filter that a value is: a list of conditions, one condition, or null for none. -/
def listOfJson (v : Json) : Except RequestFault (List Condition) :=
  match v with
  | .null => .ok []
  | .array items => items.mapM ofJson
  | .object members => return [← ofJson (.object members)]
  | _ => .error .filterNotList

/-- The filter that a text is. -/
def listOfText (text : String) : Except RequestFault (List Condition) :=
  match Json.ofText? text with
  | .ok v => listOfJson v
  | .error _ => .error .filterNotJson

end Condition

end GuardedSearch
