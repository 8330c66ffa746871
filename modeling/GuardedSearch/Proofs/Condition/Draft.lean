import GuardedSearch.Proofs.Condition.Grammar
import GuardedSearch.Proofs.Json.Decoding
import Mathlib.Logic.Function.Basic

/-!
# Drafts of conditions

A draft has a place for each of the twelve attributes, and filling in an attribute differs from one
to the other in what is decoded and where it goes. Seen from outside the attributes are alike: each
says some `Part` of the condition, `Draft.slot` is where it went, and filling in one leaves all
other slots as they were. Twelve attributes are told apart once, in `Draft.exists_fillJson_iff`, and
the rest is about slots.

## Main definitions

* `Condition.Part`, `Part.decode` — what an attribute says, and its decoder
* `Draft.slot` — what a draft has for an attribute
* `Draft.Holds` — the draft has what some attributes say, and nothing else

## Main results

* `Draft.exists_fillJson_iff` — filling in one attribute
* `Draft.Holds.fillJson`, `Draft.Holds.decodeMembers` — what is read is held, for one attribute and
  for all
* `Draft.Holds.exists_decodeMembers` — attributes that can be read are read
* `Draft.complete_eq_ok_iff` — the condition that a draft makes
-/

namespace GuardedSearch.Condition

open Decoder (runJson inValue)

/-! ### Attributes -/

/-- What an attribute says of a condition. -/
inductive Part where
  | field (name : String)
  | operator (op : Operator)
  | group (c : Condition)

namespace Part

/-- The operator that an attribute says, if it says one. -/
def operator? : Part → Option Operator
  | operator op => some op
  | _ => none

/-- The condition that an attribute combines others to, if it does. -/
def group? : Part → Option Condition
  | group c => some c
  | _ => none

/-- The decoder of an attribute. -/
def decode : String → Decoder Part
  | "field" => .mapped field .string
  | "eq" => .mapped (operator ∘ .eq) Literal.decoder
  | "contains" => .mapped (operator ∘ .contains) .string
  | "startsWith" => .mapped (operator ∘ .startsWith) .string
  | "in" => .mapped (operator ∘ .oneOf) (.list Literal.decoder)
  | "gt" => .mapped (operator ∘ .gt) Literal.decoder
  | "lt" => .mapped (operator ∘ .lt) Literal.decoder
  | "gte" => .mapped (operator ∘ .gte) Literal.decoder
  | "lte" => .mapped (operator ∘ .lte) Literal.decoder
  | "and" => .mapped (group ∘ .all) decodeList
  | "or" => .mapped (group ∘ .any) decodeList
  | "not" => .mapped (group ∘ .not) decoder
  | name => fun _ _ => .error (.unknownField name Draft.attributes)

end Part

namespace Draft

/-- What the draft has for an attribute: nothing yet, null, or what the attribute says. -/
def slot (d : Draft) : String → Option (Option Part)
  | "field" => d.field.map (Option.map .field)
  | "eq" => d.eq.map (Option.map (.operator ∘ .eq))
  | "contains" => d.contains.map (Option.map (.operator ∘ .contains))
  | "startsWith" => d.startsWith.map (Option.map (.operator ∘ .startsWith))
  | "in" => d.oneOf.map (Option.map (.operator ∘ .oneOf))
  | "gt" => d.gt.map (Option.map (.operator ∘ .gt))
  | "lt" => d.lt.map (Option.map (.operator ∘ .lt))
  | "gte" => d.gte.map (Option.map (.operator ∘ .gte))
  | "lte" => d.lte.map (Option.map (.operator ∘ .lte))
  | "and" => d.all.map (Option.map (.group ∘ .all))
  | "or" => d.any.map (Option.map (.group ∘ .any))
  | "not" => d.not.map (Option.map (.group ∘ .not))
  | _ => none

@[simp] theorem slot_blank (key : String) : blank.slot key = none := by
  unfold slot
  split <;> rfl

/-! ### Filling in one attribute -/

/-- Fills in an attribute with a value. -/
def fillJson (d : Draft) (key : String) (v : Json) : Except DecodeError Draft :=
  d.fill inValue key (Raw.ofJson v) (fun _ => decodeList inValue (Raw.ofJson v))
    fun _ => decoder inValue (Raw.ofJson v)

variable {d d' : Draft} {key : String} {v : Json} {slots : String → Option (Option Part)}

/-- An attribute is filled in if its place is free and its value can be decoded. Whatever the place
is, and whatever it takes, its slot gets what the attribute says. -/
theorem exists_once_iff {α : Type} {decode : Decoder α} {make : α → Part}
    {place : Option (Option α)} {set : Option (Option α) → Draft}
    (hslot : d.slot key = place.map (Option.map make))
    (hset : ∀ a, (set (some a)).slot = Function.update d.slot key (some (a.map make))) :
    (∃ d', (do
        let filled ← Decoder.once key place (Decoder.optional decode inValue (Raw.ofJson v))
        return set filled) = .ok d' ∧ d'.slot = slots) ↔
      d.slot key = none ∧ ∃ part, runJson (Decoder.optional (.mapped make decode)) v = .ok part ∧
        Function.update d.slot key (some part) = slots := by
  rw [hslot, Option.map_eq_none_iff, Decoder.runJson_eq, Decoder.optional_mapped]
  simp only [bind_eq_ok_iff, pure_eq_ok_iff, Decoder.once_eq_ok_iff, map_eq_ok_iff]
  constructor
  · rintro ⟨-, ⟨-, ⟨hnone, a, ha, rfl⟩, rfl⟩, rfl⟩
    exact ⟨hnone, a.map make, ⟨a, ha, rfl⟩, (hset a).symm⟩
  · rintro ⟨hnone, -, ⟨a, ha, rfl⟩, rfl⟩
    exact ⟨set (some a), ⟨some a, ⟨hnone, a, ha, rfl⟩, rfl⟩, hset a⟩

/-- **Filling in one attribute** changes its slot and no other. -/
theorem exists_fillJson_iff :
    (∃ d', d.fillJson key v = .ok d' ∧ d'.slot = slots) ↔ key ∈ attributes ∧ d.slot key = none ∧
      ∃ part, runJson (Decoder.optional (Part.decode key)) v = .ok part ∧
        Function.update d.slot key (some part) = slots := by
  by_cases hkey : key ∈ attributes
  · rw [and_iff_right hkey]
    simp only [attributes, List.mem_cons, List.not_mem_nil, or_false] at hkey
    obtain rfl | rfl | rfl | rfl | rfl | rfl | rfl | rfl | rfl | rfl | rfl | rfl := hkey
    -- Which place is filled and by which decoder is found by `rfl`, in `fill` and in `slot`; that
    -- the other slots stay as they were has to be seen for each of them.
    all_goals
      refine exists_once_iff rfl fun a => funext fun other => ?_
      rw [Function.update_apply]
      unfold slot
      split <;> grind
  · simp only [hkey, false_and, iff_false]
    rintro ⟨d', hfill, -⟩
    unfold fillJson fill at hfill
    split at hfill
    case h_13 => cases hfill
    all_goals exact hkey (by decide)

/-! ### Filling in all attributes -/

/-- The draft holds what the attributes say, and nothing else. -/
structure Holds (d : Draft) (members : List (String × Json)) : Prop where
  /-- No attribute is there twice. -/
  nodup : (Table.names members).Nodup
  /-- Every attribute has a place in the draft. -/
  known : ∀ key ∈ Table.names members, key ∈ attributes
  /-- A slot has what is decoded from its attribute, and nothing if there is no attribute. -/
  slots : ∀ key, Option.Rel
    (fun v part => runJson (Decoder.optional (Part.decode key)) v = .ok part)
    (Table.value? key members) (d.slot key)

theorem holds_blank : blank.Holds [] where
  nodup := List.nodup_nil
  known _ h := absurd h List.not_mem_nil
  slots key := by
    rw [slot_blank]
    exact .none

variable {before rest : List (String × Json)}

namespace Holds

theorem slot_eq_none_iff (h : d.Holds before) : d.slot key = none ↔ key ∉ Table.names before := by
  have hslot := h.slots key
  rw [← Table.value?_eq_none_iff]
  generalize Table.value? key before = value, d.slot key = slot at hslot ⊢
  cases hslot with
  | none => simp
  | some => simp

/-- What is filled in is held, besides what was held before. -/
theorem fillJson (h : d.Holds before) (hfill : d.fillJson key v = .ok d') :
    d'.Holds (before ++ [(key, v)]) := by
  obtain ⟨hkey, hnone, part, hpart, hslots⟩ := exists_fillJson_iff.mp ⟨d', hfill, rfl⟩
  have hnew : key ∉ Table.names before := h.slot_eq_none_iff.mp hnone
  refine ⟨?_, ?_, fun other => ?_⟩
  · rw [Table.names, List.map_append]
    exact List.nodup_append_comm.mp (List.nodup_cons.mpr ⟨hnew, h.nodup⟩)
  · rw [Table.names, List.map_append, List.forall_mem_append]
    exact ⟨h.known, List.forall_mem_singleton.mpr hkey⟩
  · rw [← hslots, Table.value?_append, Function.update_apply]
    split
    case isTrue heq =>
      have hself : Table.value? key [(key, v)] = some v := by simp [Table.value?]
      rw [heq, Table.value?_eq_none_iff.mpr hnew, Option.none_or, hself]
      exact .some hpart
    case isFalse hne =>
      have hother : Table.value? other [(key, v)] = none :=
        Table.value?_eq_none_iff.mpr fun hmem => hne (List.mem_singleton.mp hmem)
      rw [hother, Option.or_none]
      exact h.slots other

/-- **What is read is held.** -/
theorem decodeMembers (h : d.Holds before)
    (hread : decodeMembers inValue d (Raw.ofMembers rest) = .ok d') :
    d'.Holds (before ++ rest) := by
  induction rest generalizing before d with
  | nil =>
    cases hread
    rwa [List.append_nil]
  | cons member rest ih =>
    obtain ⟨key, v⟩ := member
    simp only [Raw.ofMembers, Condition.decodeMembers, bind_eq_ok_iff] at hread
    obtain ⟨filled, hfill, hread⟩ := hread
    rw [List.append_cons]
    exact ih (h.fillJson hfill) hread

/-- Attributes that can be read one by one, and of which none is repeated, are read. -/
theorem exists_decodeMembers (h : d.Holds before) (hnodup : (Table.names (before ++ rest)).Nodup)
    (hread : ∀ m ∈ rest, m.1 ∈ attributes ∧
      ∃ part, runJson (Decoder.optional (Part.decode m.1)) m.2 = .ok part) :
    ∃ d', Condition.decodeMembers inValue d (Raw.ofMembers rest) = .ok d' := by
  induction rest generalizing before d with
  | nil => exact ⟨d, rfl⟩
  | cons member rest ih =>
    obtain ⟨key, v⟩ := member
    obtain ⟨⟨hkey, part, hpart⟩, hrest⟩ := List.forall_mem_cons.mp hread
    have hnew : key ∉ Table.names before := by
      rw [Table.names, List.map_append, List.map_cons, List.nodup_middle, List.nodup_cons] at hnodup
      exact fun hmem => hnodup.1 (List.mem_append_left _ hmem)
    obtain ⟨filled, hfill, -⟩ := exists_fillJson_iff.mpr
      ⟨hkey, h.slot_eq_none_iff.mpr hnew, part, hpart, rfl⟩
    rw [List.append_cons] at hnodup
    obtain ⟨d', hd'⟩ := ih (h.fillJson hfill) hnodup hrest
    refine ⟨d', ?_⟩
    rw [Raw.ofMembers, Condition.decodeMembers]
    exact bind_eq_ok_iff.mpr ⟨filled, hfill, hd'⟩

/-- What a draft holds for an attribute is what is said by what is given for it. -/
theorem rel_given? (h : d.Holds before) (key : String) :
    Option.Rel (fun v part => runJson (Part.decode key) v = .ok part)
      (given? before key) (d.slot key).join := by
  have hslot := h.slots key
  rw [given?]
  generalize Table.value? key before = value, d.slot key = slot at hslot ⊢
  cases hslot with
  | none => exact .none
  | @some v part hpart =>
    rcases Decoder.runJson_optional_eq_ok_iff.mp hpart with ⟨rfl, rfl⟩ | ⟨hv, a, ha, rfl⟩
    · exact .none
    · cases v with
      | null => exact absurd rfl hv
      | _ => exact .some ha

end Holds

/-! ### Completing a draft -/

/-- Looking at what an attribute says undoes saying it. -/
theorem join_map_bind {α β γ : Type} (f : α → β) (g : β → Option γ) (x : Option (Option α)) :
    (x.map (Option.map f)).join.bind g = x.join.bind (g ∘ f) := by
  rcases x with _ | _ | a <;> rfl

theorem operators_eq_filterMap (d : Draft) :
    d.operators = operatorOrder.filterMap fun key => (d.slot key).join.bind Part.operator? := by
  simp only [operatorOrder, List.filterMap_eq_flatMap_toList, List.flatMap_cons, List.flatMap_nil,
    slot, join_map_bind]
  simp only [operators, Option.map_eq_bind, List.append_assoc, List.append_nil]
  rfl

/-- The combined conditions among the attributes, in the order of the parts that they make. -/
def groups (d : Draft) : List Condition :=
  groupOrder.filterMap fun key => (d.slot key).join.bind Part.group?

theorem parts_eq_groups_append (d : Draft) :
    d.parts = d.groups ++ (d.field.join.map fun name => .field name d.operators).toList := by
  simp only [groups, groupOrder, List.filterMap_eq_flatMap_toList, List.flatMap_cons,
    List.flatMap_nil, slot, join_map_bind, List.append_nil]
  simp only [parts, Option.map_eq_bind, List.append_assoc]
  rfl

theorem complete_eq_ok_iff {c : Condition} :
    d.complete = .ok c ↔ (d.operators ≠ [] → d.field.join.isSome) ∧ join d.parts = c := by
  rw [complete]
  split
  case h_1 op ops hfield hoperators => simp [hfield, hoperators]
  case h_2 hwanted =>
    have hfield : d.operators ≠ [] → d.field.join.isSome := by
      intro hoperators
      obtain ⟨op, ops, hcons⟩ := List.exists_cons_of_ne_nil hoperators
      rw [Option.isSome_iff_ne_none]
      exact fun hnone => hwanted op ops hnone hcons
    rw [and_iff_right hfield]
    rcases d.parts with _ | ⟨part, _ | ⟨next, parts⟩⟩ <;> simp [join]

end Draft

end GuardedSearch.Condition
