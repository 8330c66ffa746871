import GuardedSearch.Json.Basic

/-!
# JSON as it stands in a text

A text that is to be decoded may stop being JSON somewhere, and what is decoded from the part before
that decides which fault is reported. So a text is first read into a `Raw` tree, which keeps members
in the order of the text with all repetitions, and the fault in its place; decoding then visits the
tree in that order.

There are two ways to visit a tree: to *ask* for its value, and to *pass* over it. Who passes over a
number or a string looks less closely, so the same place can be another fault for him, or none. A
`Cut` is a place where the text stops being JSON for both. A token that is `unreadable` is complete
but has no value, such as a number too large for a double: only who asks for its value is told.

## Main definitions

* `SyntaxError`, `Cut`: why a text is not JSON, and what each kind of visitor is told.
* `Raw`, `Raw.ofJson`: the tree of a text, and of a value.
* `Raw.fault?`, `Raw.toJson`: passing over a tree, and asking for its value.
-/

namespace GuardedSearch

/-- How a text can fail to be JSON. -/
inductive SyntaxError where
  | endInValue
  | endInList
  | endInObject
  | endInString
  | expectedValue
  | expectedWord
  | expectedColon
  | expectedListEnd
  | expectedObjectEnd
  | nameNotString
  | invalidNumber
  | numberOutOfRange
  | invalidEscape
  | loneSurrogate
  | endOfEscape
  | controlCharacter
  | trailingComma
  | trailingCharacters
  | tooDeep
  deriving DecidableEq, Repr

/-- The wording of a syntax error. -/
def SyntaxError.message : SyntaxError → String
  | endInValue => "EOF while parsing a value"
  | endInList => "EOF while parsing a list"
  | endInObject => "EOF while parsing an object"
  | endInString => "EOF while parsing a string"
  | expectedValue => "expected value"
  | expectedWord => "expected ident"
  | expectedColon => "expected `:`"
  | expectedListEnd => "expected `,` or `]`"
  | expectedObjectEnd => "expected `,` or `\x7d`"
  | nameNotString => "key must be a string"
  | invalidNumber => "invalid number"
  | numberOutOfRange => "number out of range"
  | invalidEscape => "invalid escape"
  | loneSurrogate => "lone leading surrogate in hex escape"
  | endOfEscape => "unexpected end of hex escape"
  | controlCharacter => "control character (\\u0000-\\u001F) found while parsing a string"
  | trailingComma => "trailing comma"
  | trailingCharacters => "trailing characters"
  | tooDeep => "recursion limit exceeded"

/-- A place where a text stops being JSON: what is told to who asks for the value there, and to who
passes over it. -/
structure Cut where
  asked : SyntaxError
  passed : SyntaxError
  deriving DecidableEq, Repr

namespace Cut

/-- A cut that is the same for everybody. -/
def plain (e : SyntaxError) : Cut := ⟨e, e⟩

/-- What is told to who has all the items that he wants from an array and expects its end. -/
def closing (cut : Cut) : SyntaxError :=
  if cut.asked = .expectedListEnd then .trailingCharacters else cut.asked

/-- What is told to who has the only member that he wants from an object and expects its end. -/
def single (cut : Cut) : SyntaxError :=
  if cut.asked = .endInObject then .endInObject else .expectedValue

end Cut

/-- The name of a member, if it is readable. -/
abbrev Raw.Name := Except SyntaxError String

/-- What stands where a value should be and is none: the beginning of no value, the beginning of a
number or a word, or the quote of a string. -/
inductive Raw.Start where
  | nothing
  | scalar
  | quote
  deriving DecidableEq, Repr

/-- JSON as it stands in a text. The `cut` of an array or object is what its end is missing for. -/
inductive Raw where
  | fault (start : Raw.Start) (cut : Cut)
  | unreadable (start : Raw.Start) (e : SyntaxError)
  | null
  | bool (b : Bool)
  | number (n : Json.Number)
  | string (s : String)
  | array (items : List Raw) (cut : Option Cut)
  | object (members : List (Raw.Name × Raw)) (cut : Option Cut)

namespace Raw

/-- What who passes over the tree is told, if the text is cut inside it. -/
def fault? : Raw → Option SyntaxError
  | fault _ cut => some cut.passed
  | array _ cut | object _ cut => cut.map Cut.passed
  | _ => none

mutual

/-- A value as a text would hold it. -/
def ofJson : Json → Raw
  | .null => null
  | .bool b => bool b
  | .number n => number n
  | .string s => string s
  | .array items => array (ofItems items) none
  | .object members => object (ofMembers members) none

/-- The items of an array as a text would hold them. -/
def ofItems : List Json → List Raw
  | [] => []
  | v :: rest => ofJson v :: ofItems rest

/-- The members of an object as a text would hold them. -/
def ofMembers : List (String × Json) → List (Name × Raw)
  | [] => []
  | (name, v) :: rest => (.ok name, ofJson v) :: ofMembers rest

end

/-- What the end of an array or object means to who visits all of it, in terms of what he is told
where it is missing. -/
def atEnd (told : Cut → SyntaxError) (cut : Option Cut) : Except SyntaxError Unit :=
  match cut with
  | some cut => .error (told cut)
  | none => .ok ()

/-- How many more arrays and objects may be entered; `none` stands for any number. -/
abbrev Room := Option Nat

/-- The room in a text. -/
def textRoom : Room := some 127

/-- The room inside one more array or object. -/
def deeper : Room → Except SyntaxError Room
  | none => .ok none
  | some 0 => .error .tooDeep
  | some (n + 1) => .ok (some n)

mutual

/-- The value of a tree; a member repeated keeps its last value. -/
def toJson (room : Room) : Raw → Except SyntaxError Json
  | fault _ cut => .error cut.asked
  | unreadable _ e => .error e
  | null => .ok .null
  | bool b => .ok (.bool b)
  | number n => .ok (.number n)
  | string s => .ok (.string s)
  | array items cut => do
    let inner ← deeper room
    let values ← toItems inner items
    atEnd Cut.asked cut
    return .array values
  | object members cut => do
    let inner ← deeper room
    let values ← toMembers inner [] members
    atEnd Cut.asked cut
    return .object values

/-- The values of the items of an array. -/
def toItems (room : Room) : List Raw → Except SyntaxError (List Json)
  | [] => .ok []
  | r :: rest => do
    let v ← toJson room r
    let vs ← toItems room rest
    return v :: vs

/-- The values of members, added to those `before`. -/
def toMembers (room : Room) (before : List (String × Json)) :
    List (Name × Raw) → Except SyntaxError (List (String × Json))
  | [] => .ok before
  | (.error e, _) :: _ => .error e
  | (.ok name, r) :: rest => do
    let v ← toJson room r
    toMembers room (Table.put name v before) rest

end

end Raw

end GuardedSearch
