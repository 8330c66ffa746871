import GuardedSearch.Condition.Reader
import GuardedSearch.Proofs.Table
import Mathlib.Data.List.Forall2

/-!
# The grammar of conditions

Which JSON values are conditions, and which condition a value is, without a word on how it is read:
`Node` relates a value to the condition that it writes down. Nothing in a node is passed over. Every
attribute is known, and every attribute that is present has its place in the condition.

Two orders are not to be confused. An array gives its attributes in the order `Draft.attributes`, in
which "lt" comes before "gte" and the field before everything else; the operators of a field stand
in the order `operatorOrder`, and the combined conditions in the order `groupOrder`, with the
condition on the field behind them.

## Main definitions

* `Literal.Written`, `Operator.Written` — which value is which literal, and which attribute is which
  operator
* `Condition.Gives` — the attributes of a value, written as an object or as an array
* `Condition.given?`, `Condition.present` — what is given for an attribute, null being nothing
* `Condition.Node`, `Condition.Group` — which value is which condition
-/

namespace GuardedSearch

/-! ### Literals and operators -/

/-- The value is the literal. A whole number that does not fit 64 bits with a sign is a double. -/
inductive Literal.Written : Json → Literal → Prop
  | bool (b : Bool) : Written (.bool b) (.bool b)
  | int {n : Int} : Text.int64Least ≤ n → n ≤ Text.int64Greatest →
      Written (.number (.whole n)) (.int n)
  | large {n : Int} : n < Text.int64Least ∨ Text.int64Greatest < n →
      Written (.number (.whole n)) (.double (.ofInt n))
  | double (x : Double.Finite) : Written (.number (.double x)) (.double (.finite x))
  | string (s : String) : Written (.string s) (.string s)

/-- The attribute is the operator. -/
inductive Operator.Written : String × Json → Operator → Prop
  | eq {v l} : Literal.Written v l → Written ("eq", v) (.eq l)
  | contains (s : String) : Written ("contains", .string s) (.contains s)
  | startsWith (s : String) : Written ("startsWith", .string s) (.startsWith s)
  | oneOf {items ls} : List.Forall₂ Literal.Written items ls →
      Written ("in", .array items) (.oneOf ls)
  | gt {v l} : Literal.Written v l → Written ("gt", v) (.gt l)
  | gte {v l} : Literal.Written v l → Written ("gte", v) (.gte l)
  | lt {v l} : Literal.Written v l → Written ("lt", v) (.lt l)
  | lte {v l} : Literal.Written v l → Written ("lte", v) (.lte l)

namespace Literal

theorem ofNumber_of_fits {n : Int} (hleast : Text.int64Least ≤ n)
    (hgreatest : n ≤ Text.int64Greatest) : ofNumber (.whole n) = .int n := by
  simp [ofNumber, Json.Number.int64?, Text.fitsInt64, hleast, hgreatest]

theorem ofNumber_of_large {n : Int} (h : n < Text.int64Least ∨ Text.int64Greatest < n) :
    ofNumber (.whole n) = .double (.ofInt n) := by
  have hfits : Text.fitsInt64 n = false := by
    rw [Text.fitsInt64, Bool.and_eq_false_iff, decide_eq_false_iff_not, decide_eq_false_iff_not]
    omega
  simp [ofNumber, Json.Number.int64?, Json.Number.toDouble, hfits]

theorem written_ofNumber (n : Json.Number) : Written (.number n) (ofNumber n) := by
  cases n with
  | double x => exact .double x
  | whole n =>
    by_cases hlarge : n < Text.int64Least ∨ Text.int64Greatest < n
    · rw [ofNumber_of_large hlarge]
      exact .large hlarge
    · obtain ⟨hleast, hgreatest⟩ := not_or.mp hlarge
      rw [Int.not_lt] at hleast hgreatest
      rw [ofNumber_of_fits hleast hgreatest]
      exact .int hleast hgreatest

/-- Among values, literals are the booleans, the numbers and the strings. -/
theorem ofJson?_eq_some_iff {v : Json} {l : Literal} : ofJson? v = some l ↔ Written v l := by
  constructor
  · intro h
    cases v with
    | bool b =>
      cases h
      exact .bool b
    | number n =>
      cases h
      exact written_ofNumber n
    | string s =>
      cases h
      exact .string s
    | null | array | object => cases h
  · intro h
    cases h with
    | int hleast hgreatest => rw [ofJson?, ofNumber_of_fits hleast hgreatest]
    | large hlarge => rw [ofJson?, ofNumber_of_large hlarge]
    | bool | double | string => rfl

end Literal

namespace Condition

/-! ### Attributes -/

/-- The attributes of a value: the members of an object, or the items of an array under the names of
the attributes in their order. -/
inductive Gives : Json → List (String × Json) → Prop
  | object (members : List (String × Json)) : Gives (.object members) members
  | array {items : List Json} : items.length ≤ Draft.attributes.length →
      Gives (.array items) (Draft.attributes.zip items)

/-- What is given for an attribute. Null counts as absent. -/
def given? (members : List (String × Json)) (key : String) : Option Json :=
  match Table.value? key members with
  | some .null => none
  | given => given

/-- The attributes of some names that are given, in the order of the names. -/
def present (order : List String) (members : List (String × Json)) : List (String × Json) :=
  order.filterMap fun key => (given? members key).map fun v => (key, v)

/-- The names of operators in the order in which they apply. -/
def operatorOrder : List String :=
  ["eq", "contains", "startsWith", "in", "gt", "gte", "lt", "lte"]

/-- The names of combined conditions in the order of the parts that they make. -/
def groupOrder : List String :=
  ["and", "or", "not"]

theorem gives_object_iff {given members : List (String × Json)} :
    Gives (.object given) members ↔ given = members := by
  constructor
  · rintro ⟨⟩
    rfl
  · rintro rfl
    exact .object given

theorem gives_array_iff {items : List Json} {members : List (String × Json)} :
    Gives (.array items) members ↔
      items.length ≤ Draft.attributes.length ∧ Draft.attributes.zip items = members := by
  constructor
  · rintro (_ | hlength)
    exact ⟨hlength, rfl⟩
  · rintro ⟨hlength, rfl⟩
    exact .array hlength

/-- An attribute that is no operator and combines no conditions is the field. -/
theorem attribute_cases :
    ∀ key ∈ Draft.attributes, key = "field" ∨ key ∈ operatorOrder ∨ key ∈ groupOrder := by
  decide

section

variable {members : List (String × Json)} {key : String} {v : Json}

theorem given?_eq_some_iff :
    given? members key = some v ↔ Table.value? key members = some v ∧ v ≠ .null := by
  rw [given?]
  split
  case h_1 hnull =>
    rw [hnull]
    constructor
    · intro h
      cases h
    · rintro ⟨⟨⟩, hv⟩
      exact absurd rfl hv
  case h_2 hnull =>
    constructor
    · rintro hv
      refine ⟨hv, ?_⟩
      rintro rfl
      exact hnull hv
    · exact And.left

theorem mem_of_given? (h : given? members key = some v) : (key, v) ∈ members :=
  Table.mem_of_value? (given?_eq_some_iff.mp h).1

theorem mem_present_iff {order : List String} :
    (key, v) ∈ present order members ↔ key ∈ order ∧ given? members key = some v := by
  simp [present]

end

/-! ### Nodes -/

/-- The condition that asks for all parts. A single part asks for that by itself. -/
def join : List Condition → Condition
  | [part] => part
  | parts => .all parts

mutual

/-- The value is a node, and the condition is what it says. -/
inductive Node : Json → Condition → Prop
  | mk {v : Json} {members : List (String × Json)} {name : Option String}
      {operators : List Operator} {groups : List Condition}
      (gives : Gives v members)
      (nodup : (Table.names members).Nodup)
      (known : ∀ key ∈ Table.names members, key ∈ Draft.attributes)
      (field_given : given? members "field" = name.map Json.string)
      (operators_written : List.Forall₂ Operator.Written (present operatorOrder members) operators)
      (groups_written : List.Forall₂ Group (present groupOrder members) groups)
      (operators_want_field : operators ≠ [] → name.isSome) :
      Node v (join (groups ++ (name.map fun name => .field name operators).toList))

/-- The attribute combines nodes, and the condition is what it says. -/
inductive Group : String × Json → Condition → Prop
  | all {items : List Json} {parts : List Condition} :
      List.Forall₂ Node items parts → Group ("and", .array items) (.all parts)
  | any {items : List Json} {parts : List Condition} :
      List.Forall₂ Node items parts → Group ("or", .array items) (.any parts)
  | not {v : Json} {part : Condition} : Node v part → Group ("not", v) (.not part)

end

end Condition

end GuardedSearch
