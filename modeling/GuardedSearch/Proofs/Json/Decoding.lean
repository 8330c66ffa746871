import GuardedSearch.Literal
import GuardedSearch.Proofs.Json.Induction
import GuardedSearch.Proofs.Stages

/-!
# Decoding values

A decoder is told less by a value than by a text: a value is cut nowhere, and it may be nested to
any depth. So on values a decoder is a partial function, and the lemmas here say of which values it
makes something, and what.

## Main definitions

* `Decoder.inValue` — where the decoder of a value stands
* `Decoder.mapped` — a decoder followed by a function

## Main results

* `Decoder.runJson_list_eq_ok_iff` — an array is decoded item by item
* `Decoder.runJson_optional_eq_ok_iff` — null is an absent value
* `Literal.runJson_decoder_eq_ok_iff` — a literal is decoded from a single value
-/

namespace GuardedSearch

@[simp] theorem Place.notJson_eq_ok_iff {α : Type} {x : Except SyntaxError α} {a : α} :
    Place.notJson x = .ok a ↔ x = .ok a := by
  cases x with
  | error e => simp [Place.notJson]
  | ok b => simp [Place.notJson]

namespace Decoder

variable {α β : Type} {v : Json}

/-! ### Decoders -/

/-- Where the decoder of a value stands, at every depth. -/
def inValue : Place := ⟨.value, none⟩

@[simp] theorem enter_inValue : inValue.enter = .ok inValue := rfl

theorem runJson_eq (decode : Decoder α) (v : Json) :
    runJson decode v = decode inValue (Raw.ofJson v) := rfl

/-- A decoder followed by a function. -/
def mapped (f : α → β) (decode : Decoder α) : Decoder β
  | p, r => f <$> decode p r

@[simp] theorem runJson_mapped_eq_ok_iff {f : α → β} {decode : Decoder α} {b : β} :
    runJson (mapped f decode) v = .ok b ↔ ∃ a, runJson decode v = .ok a ∧ f a = b :=
  map_eq_ok_iff

theorem optional_mapped (f : α → β) (decode : Decoder α) (p : Place) (r : Raw) :
    optional (mapped f decode) p r = Option.map f <$> optional decode p r := by
  cases r <;> simp [optional, mapped, Raw.unlessNull]

/-! ### What is decoded from a value -/

@[simp] theorem runJson_string_eq_ok_iff {s : String} :
    runJson Decoder.string v = .ok s ↔ v = .string s := by
  cases v <;> simp [runJson_eq, Raw.ofJson, Decoder.string]

/-- An array is decoded item by item. -/
theorem runJson_list_eq_ok_iff {decode : Decoder α} {values : List α} :
    runJson (Decoder.list decode) v = .ok values ↔
      ∃ items, v = .array items ∧
        List.Forall₂ (fun item a => runJson decode item = .ok a) items values := by
  cases v with
  | array items =>
    simp only [runJson_eq, Raw.ofJson, Decoder.list, enter_inValue, Raw.atEnd, Raw.ofItems_eq_map]
    simp [mapM_eq_ok_iff]
  | _ => simp [runJson_eq, Raw.ofJson, Decoder.list]

/-- Null is an absent value; any other value has to be what is wanted. -/
theorem runJson_optional_eq_ok_iff {decode : Decoder α} {value : Option α} :
    runJson (Decoder.optional decode) v = .ok value ↔
      v = .null ∧ none = value ∨ v ≠ .null ∧ ∃ a, runJson decode v = .ok a ∧ some a = value := by
  cases v <;> simp [runJson_eq, Raw.ofJson, Decoder.optional, Raw.unlessNull]

@[simp] theorem once_eq_ok_iff {name : String} {place : Option α} {value : Except DecodeError α}
    {filled : Option α} :
    once name place value = .ok filled ↔ place = none ∧ ∃ a, value = .ok a ∧ some a = filled := by
  cases place with
  | none => simp [once]
  | some a => simp [once]

end Decoder

/-- A literal is decoded from a single value. An array or object of any kind is read as a value
first, and then it is none. -/
@[simp] theorem Literal.runJson_decoder_eq_ok_iff {v : Json} {l : Literal} :
    Decoder.runJson Literal.decoder v = .ok l ↔ Literal.ofJson? v = some l := by
  cases v <;>
    simp [Decoder.runJson_eq, Literal.decoder, Decoder.json, Raw.ofJson, Raw.toJson,
      Literal.ofJson?]

end GuardedSearch
