import Mathlib.Data.List.Nodup

/-!
# Looking up by a key

If no two items of a list have the same key, looking for a key finds the item that has it, and the
place of the item in the list does not matter.

## Main results

* `find?_eq_some_iff_of_nodup` — what is found under a key
* `filterMap_find?` — looking for many keys, in the order of the items
-/

namespace GuardedSearch

/-- If no two items have the same key, a key leads to the one item that has it. -/
theorem find?_eq_some_iff_of_nodup {α β : Type} [BEq β] [LawfulBEq β] {key : α → β} {xs : List α}
    (h : (xs.map key).Nodup) {b : β} {x : α} :
    xs.find? (fun y => key y == b) = some x ↔ x ∈ xs ∧ key x = b := by
  constructor
  · intro hx
    exact ⟨List.mem_of_find?_eq_some hx, by simpa using List.find?_some hx⟩
  · rintro ⟨hx, hkey⟩
    have hsome : (xs.find? fun y => key y == b).isSome :=
      List.find?_isSome.mpr ⟨x, hx, by simpa using hkey⟩
    obtain ⟨y, hy⟩ := Option.isSome_iff_exists.mp hsome
    have hyb : key y = b := by simpa using List.find?_some hy
    rw [hy, List.inj_on_of_nodup_map h (List.mem_of_find?_eq_some hy) hx (hyb.trans hkey.symm)]

/-- If the keys of some items stand in an order without repetitions, looking for each key of the
order gives the items back. -/
theorem filterMap_find? {α β : Type} [BEq β] [LawfulBEq β] {key : α → β} {xs : List α}
    {order : List β} (hnodup : order.Nodup) (hsub : (xs.map key).Sublist order) :
    order.filterMap (fun k => xs.find? fun x => key x == k) = xs := by
  induction order generalizing xs with
  | nil =>
    rw [List.sublist_nil, List.map_eq_nil_iff] at hsub
    rw [hsub]
    rfl
  | cons k order ih =>
    obtain ⟨hk, hrestNodup⟩ := List.nodup_cons.mp hnodup
    rw [List.filterMap_cons]
    rcases List.sublist_cons_iff.mp hsub with hskip | ⟨keys, hkeys, hrest⟩
    · have hnone : xs.find? (fun x => key x == k) = none := by
        refine List.find?_eq_none.mpr fun x hx hkey => hk (hskip.mem ?_)
        exact beq_iff_eq.mp hkey ▸ List.mem_map_of_mem hx
      rw [hnone]
      exact ih hrestNodup hskip
    · obtain ⟨x, xs, rfl, rfl, rfl⟩ := List.map_eq_cons_iff.mp hkeys
      have hpassed : ∀ k ∈ order, (x :: xs).find? (fun x => key x == k) =
          xs.find? fun x => key x == k := by
        intro k hmem
        refine List.find?_cons_of_neg ?_
        rw [beq_iff_eq]
        rintro rfl
        exact hk hmem
      have hfound : (x :: xs).find? (fun y => key y == key x) = some x :=
        List.find?_cons_of_pos (beq_self_eq_true (key x))
      rw [hfound, List.filterMap_congr hpassed, ih hrestNodup hrest]

end GuardedSearch
