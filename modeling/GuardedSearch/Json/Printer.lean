import GuardedSearch.Json.Basic
import GuardedSearch.Double.Printer

/-!
# Printing JSON

The compact form has no white space. The indented form has a line for each member and item, indented
by two spaces for each level; empty arrays and objects stay on one line.
-/

namespace GuardedSearch.Json

/-- The last digits of a control character's escape. -/
def hexPair (n : Nat) : List Char :=
  [Nat.digitChar (n / 16), Nat.digitChar (n % 16)]

/-- One character inside a printed string. -/
def escape (c : Char) : List Char :=
  if c = '"' then ['\\', '"']
  else if c = '\\' then ['\\', '\\']
  else if c = '\n' then ['\\', 'n']
  else if c = '\r' then ['\\', 'r']
  else if c = '\t' then ['\\', 't']
  else if c = '\x08' then ['\\', 'b']
  else if c = '\x0c' then ['\\', 'f']
  else if c.toNat < 0x20 then ['\\', 'u', '0', '0'] ++ hexPair c.toNat
  else [c]

/-- A printed string. -/
def stringChars (s : String) : List Char :=
  '"' :: s.toList.flatMap escape ++ ['"']

/-- The printed form of a number. -/
def Number.toText : Number → String
  | whole n => toString n
  | double x => x.toJson

/-- The printed form of a boolean. -/
def boolText (b : Bool) : String :=
  if b then "true" else "false"

/-! ### Compact -/

mutual

/-- The compact form of a value. -/
def compact : Json → List Char
  | null => "null".toList
  | bool b => (boolText b).toList
  | number n => n.toText.toList
  | string s => stringChars s
  | array items => '[' :: compactItems items ++ [']']
  | object members => '\x7b' :: compactMembers members ++ ['\x7d']

/-- The compact form of the items of an array. -/
def compactItems : List Json → List Char
  | [] => []
  | [v] => compact v
  | v :: rest => compact v ++ ',' :: compactItems rest

/-- The compact form of the members of an object. -/
def compactMembers : List (String × Json) → List Char
  | [] => []
  | [(name, v)] => stringChars name ++ ':' :: compact v
  | (name, v) :: rest => stringChars name ++ ':' :: compact v ++ ',' :: compactMembers rest

end

/-- The compact form of a value. -/
def toCompact (v : Json) : String :=
  String.ofList (compact v)

/-! ### Indented -/

/-- The start of a line at a given level. -/
def newLine (level : Nat) : List Char :=
  '\n' :: List.replicate (2 * level) ' '

mutual

/-- The indented form of a value that stands at a given level. -/
def indented (level : Nat) : Json → List Char
  | array (v :: rest) =>
    '[' :: newLine (level + 1) ++ indented (level + 1) v ++ indentedItems (level + 1) rest ++
      newLine level ++ [']']
  | object ((name, v) :: rest) =>
    '\x7b' :: newLine (level + 1) ++ stringChars name ++ ':' :: ' ' :: indented (level + 1) v ++
      indentedMembers (level + 1) rest ++ newLine level ++ ['\x7d']
  | v => compact v

/-- The further items of an array. -/
def indentedItems (level : Nat) : List Json → List Char
  | [] => []
  | v :: rest => ',' :: newLine level ++ indented level v ++ indentedItems level rest

/-- The further members of an object. -/
def indentedMembers (level : Nat) : List (String × Json) → List Char
  | [] => []
  | (name, v) :: rest =>
    ',' :: newLine level ++ stringChars name ++ ':' :: ' ' :: indented level v ++
      indentedMembers level rest

end

/-- The indented form of a value. -/
def toIndented (v : Json) : String :=
  String.ofList (indented 0 v)

end GuardedSearch.Json
