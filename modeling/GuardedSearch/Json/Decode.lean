import GuardedSearch.Json.DecodeError
import GuardedSearch.Json.Reader

/-!
# Decoding

A decoder turns a tree into a value of a type, visiting the tree in its order and reporting the
first cause of failure. Where the tree comes from makes a difference in three cases only: the depth
of a text is limited, and items too many for a record and values that are no variant at all are
faults of syntax in a text. Which fault a cut in a text is depends on what the decoder wants there;
`Cut` and `Raw.Start` tell what there is to choose from.

A record may be written as an object, or as an array of its fields in their order.

## Main definitions

* `Decoder`: decoders, and those for texts, booleans, natural numbers, lists and optional values.
* `Record`, `Record.decode`: how a record is built field by field, and its decoder.
* `Decoder.run`, `Decoder.runText`, `Decoder.runJson`: decoding a whole text or value.
-/

namespace GuardedSearch

/-- Where a tree comes from. -/
inductive Origin where
  | text
  | value
  deriving DecidableEq, Repr

/-- Where a decoder stands: the origin of the tree, and how much deeper it may go. -/
structure Place where
  origin : Origin
  room : Raw.Room
  deriving DecidableEq, Repr

namespace Place

/-- The cause of failure where the text fails and no value is wanted. -/
def notJson {α : Type} (r : Except SyntaxError α) : Except DecodeError α :=
  match r with
  | .ok a => .ok a
  | .error e => .error (.notJson e)

/-- The place inside an array or object. -/
def enter (p : Place) : Except DecodeError Place := do
  let room ← notJson (Raw.deeper p.room)
  return { p with room }

end Place

/-- A way to read a value of a type from a tree. -/
abbrev Decoder (α : Type) := Place → Raw → Except DecodeError α

namespace Raw

/-- The cause of failure where something else was wanted. -/
def mismatch (expected : String) : Raw → DecodeError
  | fault _ cut => .notJson cut.asked
  | unreadable _ e => .notJson e
  | null => .invalidType .null expected
  | bool b => .invalidType (.bool b) expected
  | number n => .invalidType (.number n) expected
  | string s => .invalidType (.string s) expected
  | array _ _ => .invalidType .sequence expected
  | object _ _ => .invalidType .map expected

/-- The fault of a text where a variant was wanted: only a string or an object is looked into. -/
def notVariant : Raw → SyntaxError
  | fault .scalar _ | unreadable .scalar _ => .expectedValue
  | fault _ cut => cut.asked
  | unreadable _ e => e
  | _ => .expectedValue

/-- What the tree is decoded to unless it is null. -/
def unlessNull {α : Type} (r : Raw) (value : Unit → Except DecodeError α) :
    Except DecodeError (Option α) :=
  match r with
  | null => .ok none
  | _ => some <$> value ()

end Raw

namespace Decoder

/-! ### Single values -/

/-- A text. -/
def string : Decoder String
  | _, .string s => .ok s
  | _, r => .error (r.mismatch "a string")

/-- A boolean. -/
def bool : Decoder Bool
  | _, .bool b => .ok b
  | _, r => .error (r.mismatch "a boolean")

/-- A natural number of 64 bits; `kind` is what it is called. -/
def natural (kind : String) : Decoder Nat
  | _, .number (.whole n) =>
    if 0 ≤ n then .ok n.toNat else .error (.invalidValue (.number (.whole n)) kind)
  | _, r => .error (r.mismatch kind)

/-- Any value. -/
def json : Decoder Json
  | p, r => Place.notJson (r.toJson p.room)

/-- A value that may be null. -/
def optional {α : Type} (decode : Decoder α) : Decoder (Option α)
  | p, r => r.unlessNull fun _ => decode p r

/-- A list. -/
def list {α : Type} (decode : Decoder α) : Decoder (List α)
  | p, .array items cut => do
    let p ← p.enter
    let values ← items.mapM (decode p)
    Place.notJson (Raw.atEnd Cut.asked cut)
    return values
  | _, r => .error (r.mismatch "a sequence")

/-- One of a set of names, written as a text or as the only name of an object that gives it null. -/
def variant {α : Type} (of? : String → Option α) (names : List String) : Decoder α
  | _, .string s => named s
  | p, .object members cut => do
    if p.origin = .value ∧ members.length ≠ 1 then
      throw (.invalidValue .map "map with a single key")
    let _ ← p.enter
    match members with
    | [] =>
      Place.notJson (Raw.atEnd Cut.asked cut)
      throw (.notJson .expectedValue)
    | (name, r) :: more =>
      let a ← named (← Place.notJson name)
      match r with
      | .null => pure ()
      | r => throw (r.mismatch "unit")
      if !more.isEmpty then throw (.notJson .expectedValue)
      Place.notJson (Raw.atEnd Cut.single cut)
      return a
  | p, r =>
    match p.origin with
    | .text => .error (.notJson r.notVariant)
    | .value => .error (r.mismatch "string or map")
where
  /-- The variant of a given name. -/
  named (s : String) : Except DecodeError α :=
    match of? s with
    | some a => .ok a
    | none => .error (.unknownVariant s names)

/-! ### Fields -/

/-- Fills the place of a field, once. -/
def once {α : Type} (name : String) (slot : Option α) (value : Except DecodeError α) :
    Except DecodeError (Option α) :=
  match slot with
  | some _ => .error (.duplicateField name)
  | none => some <$> value

end Decoder

/-- How a record is decoded: its fields in order, the names they go by besides their own, and a
draft `σ` that is filled field by field. A draft that lacks a field which has no default value ends
in the name of the first such field. -/
structure Record (σ α : Type) where
  title : String
  fields : List String
  canonical : String → String
  blank : σ
  fill : Place → σ → String → Raw → Except DecodeError σ
  complete : σ → Except String α

namespace Record

variable {σ α : Type}

/-- Fills a draft from the members of an object; members of other names are passed over. -/
def fillMembers (record : Record σ α) (p : Place) (draft : σ) :
    List (Raw.Name × Raw) → Except DecodeError σ
  | [] => .ok draft
  | (.error e, _) :: _ => .error (.notJson e)
  | (.ok key, r) :: rest => do
    let name := record.canonical key
    if name ∈ record.fields then
      record.fillMembers p (← record.fill p draft name r) rest
    else match r.fault? with
      | some e => .error (.notJson e)
      | none => record.fillMembers p draft rest

/-- Fills a draft from the items of an array, and gives back the items that are left over. -/
def fillItems (record : Record σ α) (p : Place) (draft : σ) :
    (names : List String) → List Raw → Except DecodeError (σ × List Raw)
  | name :: names, r :: rest => do
    record.fillItems p (← record.fill p draft name r) names rest
  | _, rest => .ok (draft, rest)

/-- The name of the record in messages. -/
def expected (record : Record σ α) : String :=
  s!"struct {record.title}"

/-- The decoder of a record. -/
def decode (record : Record σ α) : Decoder α
  | p, .object members cut => do
    let p ← p.enter
    let draft ← record.fillMembers p record.blank members
    Place.notJson (Raw.atEnd Cut.asked cut)
    match record.complete draft with
    | .ok a => return a
    | .error name => throw (.missingField name)
  | p, .array items cut => do
    let inner ← p.enter
    let (draft, rest) ← record.fillItems inner record.blank record.fields items
    if rest.isEmpty then
      let told := if items.length < record.fields.length then Cut.asked else Cut.closing
      Place.notJson (Raw.atEnd told cut)
    match record.complete draft with
    | .error name =>
      throw (.invalidLength (record.fields.idxOf name)
        s!"{record.expected} with {record.fields.length} elements")
    | .ok a =>
      if rest.isEmpty then return a
      else match p.origin with
        | .text => throw (.notJson .trailingCharacters)
        | .value => throw (.invalidLength items.length "fewer elements in array")
  | _, r => .error (r.mismatch record.expected)

end Record

namespace Decoder

variable {α : Type}

/-- Decodes a whole text. -/
def runText (decode : Decoder α) (text : String) : Except DecodeError α := do
  let read := JsonText.read text
  let a ← decode ⟨.text, Raw.textRoom⟩ read.root
  match read.trailing with
  | some e => throw (.notJson e)
  | none => pure ()
  return a

/-- Decodes a value. -/
def runJson (decode : Decoder α) (v : Json) : Except DecodeError α :=
  decode ⟨.value, none⟩ (Raw.ofJson v)

end Decoder

end GuardedSearch
