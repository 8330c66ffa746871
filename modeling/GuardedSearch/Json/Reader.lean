import GuardedSearch.Json.Raw
import GuardedSearch.Double.Decimal

/-!
# Reading JSON texts

The reader takes a text character by character. Its state is the stack of arrays and objects that
are open and what is under way in the innermost one. A text is read by a fold of `Reader.step`, so
reading one text after another is composition of states.

## Main definitions

* `Reader`, `Reader.step`, `Reader.finish`: the states, one character, the end of the text.
* `JsonText`, `JsonText.read`: the tree of a text and what is wrong behind it.
* `Json.ofText?`: the value of a text.
-/

namespace GuardedSearch

/-! ### States -/

/-- An array or object whose end has not been read, with its items or members in reverse. For an
object, `name` is that of the member whose value is under way. -/
inductive Reader.Frame where
  | list (items : List Raw)
  | members (members : List (Raw.Name × Raw)) (name : Option Raw.Name)

/-- What is under way inside an escape in a string. An escape by number takes four bytes, and is
looked at as a whole; it has no `value` as soon as one of them is no digit. `high` is the first half
of a pair of escapes for one character. -/
inductive Reader.Escape where
  | outside
  | backslash
  | hex (bytes : Nat) (value high : Option Nat)
  | wantBackslash (high : Nat)
  | wantU (high : Nat)
  deriving DecidableEq, Repr

/-- A string under way: its characters in reverse, the escape, and the first reason why it is
unreadable. -/
structure Reader.Scan where
  chars : List Char
  escape : Reader.Escape
  unreadable : Option SyntaxError
  deriving DecidableEq, Repr

/-- How far a number has been read. -/
inductive Reader.Phase where
  | minus
  | zero
  | whole
  | point
  | fraction
  | exponent
  | exponentSign
  | exponentDigits
  deriving DecidableEq, Repr

/-- What is under way in the innermost array or object. -/
inductive Reader.Mode where
  /-- A value must follow. -/
  | value
  /-- The first item of an array, or its end, must follow. -/
  | firstItem
  /-- After a comma in an array. -/
  | nextItem
  /-- The first name in an object, or its end, must follow. -/
  | firstName
  /-- After a comma in an object. -/
  | nextName
  /-- After a name. -/
  | colon
  /-- After an item. -/
  | afterItem
  /-- After a member. -/
  | afterMember
  /-- In a name or a string. -/
  | text (isName : Bool) (scan : Reader.Scan)
  /-- In a number, whose characters so far stand in reverse. -/
  | number (chars : List Char) (phase : Reader.Phase)
  /-- In one of the words `true`, `false` and `null`. -/
  | word (rest : List Char) (result : Raw)
  /-- Behind the outermost value. -/
  | finished (root : Raw)
  /-- The text has failed to be JSON; `root` is all there was. -/
  | stopped (root : Raw) (trailing : Option SyntaxError)

/-- The state of reading a text. -/
structure Reader where
  frames : List Reader.Frame
  mode : Reader.Mode

namespace Reader

/-- The state before the first character. -/
def start : Reader := ⟨[], .value⟩

/-! ### Putting trees together -/

/-- Closes all open arrays and objects at a cut. `inner` is the value under way, if one is. -/
def collapse (cut : Cut) : (inner : Option Raw) → List Frame → Raw
  | inner, [] => inner.getD (.fault .nothing cut)
  | inner, .list items :: frames =>
    collapse cut (some (.array (items.reverse ++ inner.toList) (some cut))) frames
  | inner, .members ms name :: frames =>
    let last := match name with
      | some name => [(name, inner.getD (.fault .nothing cut))]
      | none => []
    collapse cut (some (.object (ms.reverse ++ last) (some cut))) frames

/-- Stops at a cut between values. -/
def stop (frames : List Frame) (cut : Cut) : Reader :=
  ⟨[], .stopped (collapse cut none frames) none⟩

/-- Stops at a cut in a value, or where one is due. -/
def stopValue (frames : List Frame) (start : Raw.Start) (cut : Cut) : Reader :=
  ⟨[], .stopped (collapse cut (some (.fault start cut)) frames) none⟩

/-- Takes a complete value. -/
def put (v : Raw) : List Frame → Reader
  | [] => ⟨[], .finished v⟩
  | .list items :: frames => ⟨.list (v :: items) :: frames, .afterItem⟩
  | .members ms (some name) :: frames => ⟨.members ((name, v) :: ms) none :: frames, .afterMember⟩
  | .members ms none :: frames => ⟨.members ms none :: frames, .afterMember⟩

/-- Takes the end of an array. -/
def closeList : List Frame → Reader
  | .list items :: frames => put (.array items.reverse none) frames
  | frames => stop frames (.plain .expectedValue)

/-- Takes the end of an object. -/
def closeObject : List Frame → Reader
  | .members ms _ :: frames => put (.object ms.reverse none) frames
  | frames => stop frames (.plain .expectedValue)

/-- Takes a complete name. -/
def putName (name : Raw.Name) : List Frame → Reader
  | .members ms _ :: frames => ⟨.members ms (some name) :: frames, .colon⟩
  | frames => stop frames (.plain .nameNotString)

/-! ### Numbers -/

/-- The value of a number without an exponent or a point: whole if it fits 64 bits with or without a
sign. Minus zero is a double. -/
def wholeNumber (negative : Bool) (digits : List Char) : Raw :=
  let n := Text.ofDigits digits
  if negative then
    if n ≠ 0 ∧ Text.fitsInt64 (-(n : Int)) then .number (.whole (-(n : Int)))
    else ofDouble (.ofDecimal true ⟨n, 0⟩)
  else if Text.fitsUInt64 n then .number (.whole n)
  else ofDouble (.ofDecimal false ⟨n, 0⟩)
where
  /-- A number that is too large for a double has no value. -/
  ofDouble : Double → Raw
    | .finite x => .number (.double x)
    | _ => .unreadable .scalar .numberOutOfRange

/-- The value of a number without its sign. The double is the nearest one to the number as it is
written. A reader that takes the digits as one double and then multiplies or divides it by a power
of ten rounds each time, and for some texts arrives at a neighbour of that double; this one does not
follow it there. -/
def unsignedNumber (negative : Bool) (chars : List Char) : Raw :=
  if chars.all Char.isDigit then wholeNumber negative chars
  else match Double.unsigned? negative chars with
    | some x => wholeNumber.ofDouble x
    | none => .unreadable .scalar .invalidNumber

/-- The value of a complete number. -/
def numberValue : List Char → Raw
  | '-' :: chars => unsignedNumber true chars
  | chars => unsignedNumber false chars

/-- What one more character does to a number: it goes on, it is invalid, or it has ended before the
character. -/
inductive NumberStep where
  | goOn (phase : Phase)
  | invalid
  | ended

/-- What one more character does to a number. -/
def numberStep (phase : Phase) (c : Char) : NumberStep :=
  let isExponent := c = 'e' ∨ c = 'E'
  match phase with
  | .minus => if c = '0' then .goOn .zero else if c.isDigit then .goOn .whole else .invalid
  | .zero =>
    if c.isDigit then .invalid
    else if c = '.' then .goOn .point else if isExponent then .goOn .exponent else .ended
  | .whole =>
    if c.isDigit then .goOn .whole
    else if c = '.' then .goOn .point else if isExponent then .goOn .exponent else .ended
  | .point => if c.isDigit then .goOn .fraction else .invalid
  | .fraction =>
    if c.isDigit then .goOn .fraction else if isExponent then .goOn .exponent else .ended
  | .exponent =>
    if c.isDigit then .goOn .exponentDigits
    else if c = '+' ∨ c = '-' then .goOn .exponentSign else .invalid
  | .exponentSign => if c.isDigit then .goOn .exponentDigits else .invalid
  | .exponentDigits => if c.isDigit then .goOn .exponentDigits else .ended

/-- Whether a number may end here. -/
def Phase.isComplete : Phase → Bool
  | zero | whole | fraction | exponentDigits => true
  | _ => false

/-! ### Strings -/

/-- The value of a digit in base sixteen. -/
def hexValue? (c : Char) : Option Nat :=
  if c.isDigit then some (c.toNat - '0'.toNat)
  else if 'a' ≤ c ∧ c ≤ 'f' then some (c.toNat - 'a'.toNat + 10)
  else if 'A' ≤ c ∧ c ≤ 'F' then some (c.toNat - 'A'.toNat + 10)
  else none

/-- The character that a letter behind a backslash stands for. -/
def escaped? (c : Char) : Option Char :=
  match c with
  | '"' => some '"'
  | '\\' => some '\\'
  | '/' => some '/'
  | 'b' => some '\x08'
  | 'f' => some '\x0c'
  | 'n' => some '\n'
  | 'r' => some '\r'
  | 't' => some '\t'
  | _ => none

namespace Scan

/-- One more character. -/
def push (scan : Scan) (c : Char) : Scan :=
  { scan with chars := c :: scan.chars, escape := .outside }

/-- The string cannot be read; the first reason counts. -/
def spoil (scan : Scan) (e : SyntaxError) : Scan :=
  { scan with escape := .outside, unreadable := scan.unreadable.or (some e) }

/-- A complete escape by number. -/
def code (scan : Scan) (value : Nat) : (high : Option Nat) → Scan
  | none =>
    if 0xDC00 ≤ value ∧ value ≤ 0xDFFF then scan.spoil .loneSurrogate
    else if 0xD800 ≤ value ∧ value ≤ 0xDBFF then { scan with escape := .wantBackslash value }
    else scan.push (Char.ofNat value)
  | some high =>
    if 0xDC00 ≤ value ∧ value ≤ 0xDFFF then
      scan.push (Char.ofNat (0x10000 + (high - 0xD800) * 0x400 + (value - 0xDC00)))
    else scan.spoil .loneSurrogate

/-- The cut at a fault inside the string. -/
def cut (scan : Scan) (e : SyntaxError) : Cut :=
  ⟨scan.unreadable.getD e, e⟩

/-- The text that was read, or why it cannot be. -/
def result (scan : Scan) : Raw.Name :=
  match scan.unreadable with
  | some e => .error e
  | none => .ok (String.ofList scan.chars.reverse)

end Scan

/-- What one more character does to a string: it goes on, it ends, or it is at fault. -/
inductive StringStep where
  | goOn (scan : Scan)
  | ended (scan : Scan)
  | invalid (cut : Cut)

/-- A character outside an escape. -/
def plainStep (scan : Scan) (c : Char) : StringStep :=
  if c = '"' then .ended scan
  else if c = '\\' then .goOn { scan with escape := .backslash }
  else if c.toNat < 0x20 then .invalid (scan.cut .controlCharacter)
  else .goOn (scan.push c)

/-- A character behind a backslash. -/
def escapeStep (scan : Scan) (c : Char) : StringStep :=
  if c = 'u' then .goOn { scan with escape := .hex 0 (some 0) none }
  else match escaped? c with
    | some e => .goOn (scan.push e)
    | none => .invalid (scan.cut .invalidEscape)

/-- What one more character does to a string. -/
def stringStep (scan : Scan) (c : Char) : StringStep :=
  match scan.escape with
  | .outside => plainStep scan c
  | .backslash => escapeStep scan c
  | .hex bytes value high =>
    let bytes := bytes + c.utf8Size
    let value := value.bind fun n => (hexValue? c).map fun d => n * 16 + d
    if bytes < 4 then .goOn { scan with escape := .hex bytes value high }
    else match value with
      | some n => .goOn (scan.code n high)
      | none => .invalid (scan.cut .invalidEscape)
  | .wantBackslash high =>
    if c = '\\' then .goOn { scan with escape := .wantU high }
    else plainStep (scan.spoil .endOfEscape) c
  | .wantU high =>
    if c = 'u' then .goOn { scan with escape := .hex 0 (some 0) (some high) }
    else escapeStep (scan.spoil .endOfEscape) c

/-! ### Steps -/

/-- Whether the character may stand between tokens. -/
def isSpace (c : Char) : Bool :=
  c = ' ' ∨ c = '\n' ∨ c = '\t' ∨ c = '\r'

/-- Begins the string that follows a quote. -/
def beginText (isName : Bool) : Mode :=
  .text isName ⟨[], .outside, none⟩

/-- Begins a value. -/
def beginValue (frames : List Frame) (c : Char) : Reader :=
  match c with
  | '[' => ⟨.list [] :: frames, .firstItem⟩
  | '\x7b' => ⟨.members [] none :: frames, .firstName⟩
  | '"' => ⟨frames, beginText false⟩
  | 't' => ⟨frames, .word ['r', 'u', 'e'] (.bool true)⟩
  | 'f' => ⟨frames, .word ['a', 'l', 's', 'e'] (.bool false)⟩
  | 'n' => ⟨frames, .word ['u', 'l', 'l'] .null⟩
  | '-' => ⟨frames, .number ['-'] .minus⟩
  | '0' => ⟨frames, .number ['0'] .zero⟩
  | _ =>
    if c.isDigit then ⟨frames, .number [c] .whole⟩
    else stopValue frames .nothing (.plain .expectedValue)

/-- One character between tokens. -/
def stepBetween (frames : List Frame) (mode : Mode) (c : Char) : Reader :=
  if isSpace c then ⟨frames, mode⟩
  else match mode with
    | .value => beginValue frames c
    | .firstItem => if c = ']' then closeList frames else beginValue frames c
    | .nextItem =>
      if c = ']' then stop frames ⟨.trailingComma, .expectedValue⟩ else beginValue frames c
    | .firstName =>
      if c = '"' then ⟨frames, beginText true⟩
      else if c = '\x7d' then closeObject frames else stop frames (.plain .nameNotString)
    | .nextName =>
      if c = '"' then ⟨frames, beginText true⟩
      else if c = '\x7d' then stop frames ⟨.trailingComma, .nameNotString⟩
      else stop frames (.plain .nameNotString)
    | .colon => if c = ':' then ⟨frames, .value⟩ else stop frames (.plain .expectedColon)
    | .afterItem =>
      if c = ',' then ⟨frames, .nextItem⟩
      else if c = ']' then closeList frames else stop frames (.plain .expectedListEnd)
    | .afterMember =>
      if c = ',' then ⟨frames, .nextName⟩
      else if c = '\x7d' then closeObject frames else stop frames (.plain .expectedObjectEnd)
    | .finished root => ⟨[], .stopped root (some .trailingCharacters)⟩
    | mode => ⟨frames, mode⟩

/-- One more character. -/
def step (r : Reader) (c : Char) : Reader :=
  match r.mode with
  | .stopped _ _ => r
  | .text isName scan =>
    match stringStep scan c with
    | .goOn scan => ⟨r.frames, .text isName scan⟩
    | .invalid cut =>
      if isName then stop r.frames cut else stopValue r.frames .quote cut
    | .ended scan =>
      if isName then putName scan.result r.frames
      else match scan.result with
        | .ok s => put (.string s) r.frames
        | .error e => put (.unreadable .quote e) r.frames
  | .number chars phase =>
    match numberStep phase c with
    | .goOn phase => ⟨r.frames, .number (c :: chars) phase⟩
    | .invalid => stopValue r.frames .scalar (.plain .invalidNumber)
    | .ended =>
      let next := put (numberValue chars.reverse) r.frames
      stepBetween next.frames next.mode c
  | .word (expected :: rest) result =>
    if c = expected then
      if rest.isEmpty then put result r.frames else ⟨r.frames, .word rest result⟩
    else stopValue r.frames .scalar (.plain .expectedWord)
  | mode => stepBetween r.frames mode c

/-- The end of the text. -/
def stopAtEnd (r : Reader) : Reader :=
  match r.mode with
  | .firstItem | .afterItem => stop r.frames (.plain .endInList)
  | .firstName | .colon | .afterMember => stop r.frames (.plain .endInObject)
  | .nextName => stop r.frames ⟨.endInValue, .endInObject⟩
  | .value | .nextItem => stopValue r.frames .nothing (.plain .endInValue)
  | .word _ _ => stopValue r.frames .scalar (.plain .endInValue)
  | .text true scan => stop r.frames (scan.cut .endInString)
  | .text false scan => stopValue r.frames .quote (scan.cut .endInString)
  | .number _ _ => stopValue r.frames .scalar ⟨.endInValue, .invalidNumber⟩
  | .finished _ | .stopped _ _ => r

end Reader

/-- A text that was read: the tree of its first value, and what is wrong behind it. -/
structure JsonText where
  root : Raw
  trailing : Option SyntaxError

namespace Reader

/-- Takes the number that the end of the text completes, if one is under way. -/
def endNumber (r : Reader) : Reader :=
  match r.mode with
  | .number chars phase =>
    if phase.isComplete then put (numberValue chars.reverse) r.frames else r
  | _ => r

/-- The result of reading, at the end of the text. -/
def finish (r : Reader) : JsonText :=
  match r.endNumber.stopAtEnd.mode with
  | .stopped root trailing => ⟨root, trailing⟩
  | .finished root => ⟨root, none⟩
  | _ => ⟨.fault .nothing (.plain .endInValue), none⟩

end Reader

/-- Reads characters as JSON. -/
def JsonText.ofChars (cs : List Char) : JsonText :=
  (cs.foldl Reader.step Reader.start).finish

/-- Reads a text as JSON. -/
def JsonText.read (s : String) : JsonText :=
  JsonText.ofChars s.toList

/-- The value of a text. -/
def Json.ofText? (s : String) : Except SyntaxError Json := do
  let text := JsonText.read s
  let v ← text.root.toJson Raw.textRoom
  match text.trailing with
  | some e => throw e
  | none => return v

end GuardedSearch
