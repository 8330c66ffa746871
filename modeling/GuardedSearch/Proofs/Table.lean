import GuardedSearch.Table
import Mathlib.Data.List.Basic
import Mathlib.Data.List.Nodup
import Mathlib.Data.String.Basic

/-!
# Tables made of lists

A table keeps its entries in the order of their names, and one entry for each name. So a list of
entries that repeats no name is a table up to order: making a table of it moves entries and loses
none.

## Main results

* `Table.ofList_perm` — a table has the entries that it was made of
* `Table.value?_eq_some_iff` — what stands under a name is an entry of that name
* `Table.Sorted.put`, `Table.total_put` — what putting an entry does to the order and to the sum
-/

namespace GuardedSearch.Table

variable {α : Type}

/-- The names of entries. -/
def names (entries : List (String × α)) : List String :=
  entries.map Prod.fst

/-- What is in a table afterwards has been put into it, or was there before. -/
theorem mem_put {name : String} {value : α} {table : Table α} {entry : String × α}
    (h : entry ∈ put name value table) : entry = (name, value) ∨ entry ∈ table := by
  induction table with
  | nil => exact .inl (List.mem_singleton.mp h)
  | cons first rest ih =>
    obtain ⟨other, old⟩ := first
    rw [put] at h
    split at h
    · rcases List.mem_cons.mp h with rfl | h
      · exact .inl rfl
      · exact .inr (List.mem_cons_of_mem _ h)
    · split at h
      · exact List.mem_cons.mp h
      · rcases List.mem_cons.mp h with rfl | h
        · exact .inr List.mem_cons_self
        · exact (ih h).imp_right (List.mem_cons_of_mem _)

theorem put_perm {name : String} {table : Table α} (h : name ∉ names table) (value : α) :
    (put name value table).Perm ((name, value) :: table) := by
  induction table with
  | nil => exact List.Perm.refl _
  | cons entry rest ih =>
    obtain ⟨other, old⟩ := entry
    rw [names, List.map_cons, List.mem_cons, not_or] at h
    rw [put, if_neg h.1]
    split
    · exact List.Perm.refl _
    · exact ((ih h.2).cons (other, old)).trans (List.Perm.swap (name, value) (other, old) rest)

theorem foldl_put_perm {entries : List (String × α)} {table : Table α}
    (h : (names (entries ++ table)).Nodup) :
    (entries.foldl (fun table entry => put entry.1 entry.2 table) table).Perm
      (entries ++ table) := by
  induction entries generalizing table with
  | nil => exact List.Perm.refl _
  | cons entry entries ih =>
    obtain ⟨name, value⟩ := entry
    have hmove : ((name, value) :: (entries ++ table)).Perm (entries ++ (name, value) :: table) :=
      List.perm_middle.symm
    have hput : (entries ++ put name value table).Perm ((name, value) :: (entries ++ table)) := by
      refine (List.Perm.append_left entries (put_perm ?_ value)).trans hmove.symm
      intro hmem
      rw [names, List.cons_append, List.map_cons, List.nodup_cons, List.map_append] at h
      exact h.1 (List.mem_append_right _ hmem)
    rw [List.foldl_cons]
    exact (ih ((hput.map Prod.fst).nodup_iff.mpr h)).trans hput

/-- **A table has the entries that it was made of**, if none of them repeats a name. -/
theorem ofList_perm {entries : List (String × α)} (h : (names entries).Nodup) :
    (ofList entries).Perm entries := by
  have hfold : (ofList entries).Perm (entries ++ []) := foldl_put_perm (by rwa [List.append_nil])
  rwa [List.append_nil] at hfold

/-- Entries for some names of an order, each under its own name, have their names in that order. -/
theorem names_filterMap_sublist {found? : String → Option (String × α)}
    (h : ∀ name entry, found? name = some entry → entry.1 = name) (order : List String) :
    (names (order.filterMap found?)).Sublist order := by
  induction order with
  | nil => exact .slnil
  | cons name order ih =>
    rw [List.filterMap_cons]
    cases hentry : found? name with
    | none => exact ih.cons name
    | some entry =>
      rw [names, List.map_cons, h name entry hentry]
      exact ih.cons_cons name

theorem value?_eq_none_iff {name : String} {table : Table α} :
    value? name table = none ↔ name ∉ names table := by
  rw [value?, Option.map_eq_none_iff, List.find?_eq_none, names, List.mem_map]
  constructor
  · rintro h ⟨entry, hmem, hname⟩
    exact h entry hmem (beq_iff_eq.mpr hname)
  · intro h entry hmem hname
    exact h ⟨entry, hmem, beq_iff_eq.mp hname⟩

theorem value?_append (name : String) (table more : Table α) :
    value? name (table ++ more) = (value? name table).or (value? name more) := by
  rw [value?, List.find?_append, Option.map_or]
  rfl

theorem mem_of_value? {name : String} {table : Table α} {value : α}
    (h : value? name table = some value) : (name, value) ∈ table := by
  rw [value?, Option.map_eq_some_iff] at h
  obtain ⟨⟨other, value⟩, hfind, rfl⟩ := h
  obtain rfl : other = name := by simpa using List.find?_some hfind
  exact List.mem_of_find?_eq_some hfind

/-- Where no name is repeated, what stands under a name is the entry of that name. -/
theorem value?_eq_some_iff {table : Table α} (h : (names table).Nodup) {name : String}
    {value : α} : value? name table = some value ↔ (name, value) ∈ table := by
  refine ⟨mem_of_value?, fun hmem => ?_⟩
  cases hvalue : value? name table with
  | none => exact absurd (List.mem_map_of_mem hmem) (value?_eq_none_iff.mp hvalue)
  | some other =>
    have hentry : (name, other) = (name, value) :=
      List.inj_on_of_nodup_map h (mem_of_value? hvalue) hmem rfl
    exact congrArg some (Prod.mk.inj hentry).2

theorem value?_ofList {entries : List (String × α)} (h : (names entries).Nodup) {name : String}
    {value : α} (hmem : (name, value) ∈ entries) : value? name (ofList entries) = some value := by
  have hperm := ofList_perm h
  exact (value?_eq_some_iff ((hperm.map Prod.fst).nodup_iff.mpr h)).mpr (hperm.mem_iff.mpr hmem)

/-! ### Order and sum -/

/-- The names ascend. -/
def Sorted (table : Table α) : Prop :=
  (names table).Pairwise (· < ·)

theorem Sorted.nodup {table : Table α} (h : Sorted table) : (names table).Nodup :=
  h.imp fun hlt => ne_of_lt hlt

theorem names_put_subset {name : String} {value : α} {table : Table α} {other : String}
    (h : other ∈ names (put name value table)) : other = name ∨ other ∈ names table := by
  obtain ⟨entry, hentry, rfl⟩ := List.mem_map.mp h
  exact (mem_put hentry).imp (congrArg Prod.fst) List.mem_map_of_mem

theorem Sorted.put {table : Table α} (h : Sorted table) (name : String) (value : α) :
    Sorted (put name value table) := by
  induction table with
  | nil => exact List.pairwise_singleton _ _
  | cons entry rest ih =>
    obtain ⟨other, old⟩ := entry
    obtain ⟨hfirst, hrest⟩ := List.pairwise_cons.mp h
    rw [Table.put]
    split
    case isTrue heq =>
      subst heq
      exact h
    case isFalse hne =>
      split
      case isTrue hlt =>
        refine List.pairwise_cons.mpr ⟨?_, h⟩
        exact List.forall_mem_cons.mpr ⟨hlt, fun later hlater => hlt.trans (hfirst later hlater)⟩
      case isFalse hge =>
        refine List.pairwise_cons.mpr ⟨fun later hlater => ?_, ih hrest⟩
        rcases names_put_subset hlater with rfl | hlater
        · exact lt_of_le_of_ne (not_lt.mp hge) (Ne.symm hne)
        · exact hfirst later hlater

/-- The sum of numbers in a table. -/
def total (table : Table Nat) : Nat :=
  table.foldr (fun entry sum => entry.2 + sum) 0

/-- Putting a number into a table takes away what has stood under its name. -/
theorem total_put {table : Table Nat} (h : Sorted table) (name : String) (n : Nat) :
    total (put name n table) + (value? name table).getD 0 = total table + n := by
  induction table with
  | nil => simp [put, total, value?]
  | cons entry rest ih =>
    obtain ⟨other, old⟩ := entry
    obtain ⟨hfirst, hrest⟩ := List.pairwise_cons.mp h
    have hcons : ∀ (k : String) (i : Nat) (t : Table Nat), total ((k, i) :: t) = i + total t :=
      fun _ _ _ => rfl
    rw [put]
    split
    case isTrue heq =>
      subst heq
      have hvalue : value? name ((name, old) :: rest) = some old := by simp [value?]
      rw [hvalue, hcons, hcons, Option.getD_some]
      omega
    case isFalse hne =>
      split
      case isTrue hlt =>
        have hmem : name ∉ names ((other, old) :: rest) := by
          intro hmem
          rcases List.mem_cons.mp hmem with heq | hmem
          · exact hne heq
          · exact lt_asymm hlt (hfirst name hmem)
        rw [value?_eq_none_iff.mpr hmem, hcons, Option.getD_none]
        omega
      case isFalse =>
        have hvalue : value? name ((other, old) :: rest) = value? name rest := by
          simp [value?, Ne.symm hne]
        rw [hvalue, hcons, hcons]
        have hput := ih hrest
        omega

end GuardedSearch.Table
