import GuardedSearch.Json.Raw

/-!
# Induction on values

A value holds other values behind lists, in arrays and in the members of objects, so an induction on
it needs a statement about each value of a list. `Json.induction` has one for every item and every
member, and nothing about the lists themselves.

A tree that is made of a value holds no fault, and its lists are made item by item.
-/

namespace GuardedSearch

namespace Json

/-- A statement holds of every value if it holds of scalars, and of an array or object if it holds
of what is in it. -/
theorem induction {motive : Json → Prop} (null : motive null) (bool : ∀ b, motive (bool b))
    (number : ∀ n, motive (number n)) (string : ∀ s, motive (string s))
    (array : ∀ items, (∀ v ∈ items, motive v) → motive (array items))
    (object : ∀ members, (∀ m ∈ members, motive m.2) → motive (object members)) :
    ∀ v, motive v
  | .null => null
  | .bool b => bool b
  | .number n => number n
  | .string s => string s
  | .array items => array items fun v hv =>
    have : sizeOf v < sizeOf items := List.sizeOf_lt_of_mem hv
    induction null bool number string array object v
  | .object members => object members fun m hm =>
    have : sizeOf m < sizeOf members := List.sizeOf_lt_of_mem hm
    have : sizeOf m.2 < sizeOf m := by
      obtain ⟨name, v⟩ := m
      show sizeOf v < sizeOf (name, v)
      rw [Prod.mk.sizeOf_spec]
      omega
    induction null bool number string array object m.2
termination_by v => sizeOf v

end Json

namespace Raw

theorem ofItems_eq_map (items : List Json) : ofItems items = items.map ofJson := by
  induction items with
  | nil => rfl
  | cons v rest ih => rw [ofItems, ih, List.map_cons]

end Raw

end GuardedSearch
