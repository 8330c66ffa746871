import GuardedSearch.Distribution.OfDocuments
import GuardedSearch.Proofs.Catalog.Checked
import GuardedSearch.Proofs.Document.Paths
import GuardedSearch.Proofs.Predicate.Pointwise
import GuardedSearch.Proofs.Sorting.Order
import GuardedSearch.Proofs.Table
import Mathlib.Data.List.Forall2
import Mathlib.Logic.Relation

/-!
# Arrays in documents

A property may have one value in one document and several in another one: what stands alone here is
an array there. The values at a path do not tell the difference between a value and an array that
holds nothing else, nor between an array with nulls and one without, wherever in a document this is.

What is found at a path may still differ, since an object is found with everything in it. But
nothing looks into an object that was found: a filter compares it with nothing, sorting passes it
over, and it has no bucket. So a document may be changed in this way, in as many places as one
likes, and is found by the same filters, stands at the same place and is counted in the same
buckets.

## Main definitions

* `Json.Repacked` — a value is put into an array, or an array gets a null

## Main results

* `Json.Repacked.map_fieldValues` — what is found at a path, seen by a function that does not look
  into objects
* `Json.found_through_arrays` — the places of values, and what arrays do not change
-/

namespace GuardedSearch

open Relation (ReflTransGen)

namespace Json

/-- One value is put into an array, or one array gets a null. This may happen anywhere inside a
value; if the value is the `root` of a document, it is not itself put into an array. -/
inductive Repacked : Bool → Json → Json → Prop where
  | around (v : Json) : Repacked false v (.array [v])
  | withNull (root : Bool) (before after : List Json) :
    Repacked root (.array (before ++ after)) (.array (before ++ .null :: after))
  | item (root : Bool) (before after : List Json) {v w : Json} (h : Repacked false v w) :
    Repacked root (.array (before ++ v :: after)) (.array (before ++ w :: after))
  | member (root : Bool) (before after : List (String × Json)) (name : String) {v w : Json}
    (h : Repacked false v w) :
    Repacked root (.object (before ++ (name, v) :: after)) (.object (before ++ (name, w) :: after))

/-- Two values that are found: the same, or two objects of which the second is the first one with a
change in it. -/
def FoundAlike (v w : Json) : Prop :=
  v = w ∨ v.isObject = true ∧ Repacked true v w

variable {α : Type} {f : Json → α} {root : Bool} {name path : String} {v w : Json}
  {vs ws : List Json}

theorem FoundAlike.forall₂_refl (vs : List Json) : List.Forall₂ FoundAlike vs vs :=
  List.forall₂_same.mpr fun _ _ => .inl rfl

theorem Repacked.isObject (h : Repacked true v w) : v.isObject = w.isObject := by
  cases h with
  | withNull | item | member => rfl

theorem FoundAlike.apply (hf : IsShallow f) (h : FoundAlike v w) : f v = f w := by
  rcases h with rfl | ⟨hv, h⟩
  · rfl
  · have hw : w.isObject = true := h.isObject ▸ hv
    cases v with
    | null | bool | number | string | array => cases hv
    | object members =>
      cases w with
      | null | bool | number | string | array => cases hw
      | object members' => exact hf members members'

/-- Functions that do not look into objects see the same. -/
theorem map_eq_of_foundAlike (hf : IsShallow f) (h : List.Forall₂ FoundAlike vs ws) :
    vs.map f = ws.map f := by
  induction h with
  | nil => rfl
  | cons hvw _ ih => rw [List.map_cons, List.map_cons, hvw.apply hf, ih]

namespace Repacked

/-! ### One step along a path -/

theorem leaves (h : Repacked root v w) : List.Forall₂ FoundAlike v.leaves w.leaves := by
  induction h with
  | around v =>
    rw [Json.leaves, leavesOf, leavesOf, List.append_nil]
    exact FoundAlike.forall₂_refl v.leaves
  | withNull root before after =>
    rw [Json.leaves, Json.leaves, leavesOf_eq_flatMap, leavesOf_eq_flatMap, List.flatMap_append,
      List.flatMap_append, List.flatMap_cons]
    exact FoundAlike.forall₂_refl _
  | item root before after _ ih =>
    rw [Json.leaves, Json.leaves, leavesOf_eq_flatMap, leavesOf_eq_flatMap, List.flatMap_append,
      List.flatMap_append, List.flatMap_cons, List.flatMap_cons]
    exact List.rel_append (FoundAlike.forall₂_refl _)
      (List.rel_append ih (FoundAlike.forall₂_refl _))
  | member root before after name h _ =>
    exact .cons (.inr ⟨rfl, .member true before after name h⟩) .nil

/-- What a name leads to at the root, where arrays are not passed through. -/
theorem under (h : Repacked true v w) (name : String) :
    List.Forall₂ FoundAlike (v.under name) (w.under name) := by
  cases h with
  | withNull | item => exact .nil
  | member _ before after key h =>
    rw [Json.under, Json.under, member?, member?, Table.value?_append, Table.value?_append]
    cases Table.value? name before with
    | some child => exact FoundAlike.forall₂_refl child.leaves
    | none =>
      rw [Option.none_or, Option.none_or, Table.value?, Table.value?, List.find?_cons,
        List.find?_cons]
      by_cases hkey : (key == name) = true
      · simp only [hkey]
        exact h.leaves
      · simp only [hkey]
        exact FoundAlike.forall₂_refl _

end Repacked

theorem FoundAlike.under (h : FoundAlike v w) (name : String) :
    List.Forall₂ FoundAlike (v.under name) (w.under name) := by
  rcases h with rfl | ⟨-, h⟩
  · exact FoundAlike.forall₂_refl _
  · exact h.under name

theorem forall₂_follow (h : List.Forall₂ FoundAlike vs ws) (names : List String) :
    List.Forall₂ FoundAlike (follow names vs) (follow names ws) := by
  induction names generalizing vs ws with
  | nil => exact h
  | cons name names ih => exact ih (List.rel_flatMap h fun _ _ hvw => hvw.under name)

namespace Repacked

/-! ### Paths -/

theorem valuesAt (h : Repacked true v w) (path : String) :
    List.Forall₂ FoundAlike (v.valuesAt path) (w.valuesAt path) := by
  obtain ⟨name, names, hnames⟩ := List.exists_cons_of_ne_nil (names_ne_nil path)
  rw [Json.valuesAt, Json.valuesAt, hnames, follow, follow, List.flatMap_singleton,
    List.flatMap_singleton]
  exact forall₂_follow (h.under name) names

/-- The same path stands in for another one, since there are values at a path before the change
exactly if there are some after it. -/
theorem fieldValues (h : Repacked true v w) (path : String) :
    List.Forall₂ FoundAlike (v.fieldValues path) (w.fieldValues path) := by
  have hpath := h.valuesAt path
  rw [Json.fieldValues, Json.fieldValues]
  generalize v.valuesAt path = vs at hpath
  generalize w.valuesAt path = ws at hpath
  cases hpath with
  | cons hhead htail => exact .cons hhead htail
  | nil =>
    cases Text.withoutEnding? PathPair.textEnding path with
    | none => exact .nil
    | some stem =>
      have hkeyword := h.valuesAt (stem ++ PathPair.keywordEnding)
      dsimp only
      generalize v.valuesAt (stem ++ PathPair.keywordEnding) = vs at hkeyword
      generalize w.valuesAt (stem ++ PathPair.keywordEnding) = ws at hkeyword
      cases hkeyword with
      | cons hhead htail => exact .cons hhead htail
      | nil => exact h.valuesAt stem

/-- **Arrays do not show.** After any number of changes, what is found at a path looks the same to
every function that does not look into objects. -/
theorem map_fieldValues (hf : IsShallow f) (h : ReflTransGen (Repacked true) v w) (path : String) :
    (v.fieldValues path).map f = (w.fieldValues path).map f := by
  induction h with
  | refl => rfl
  | tail _ hstep ih => exact ih.trans (map_eq_of_foundAlike hf (hstep.fieldValues path))

theorem filterMap_fieldValues {f : Json → Option α} (hf : IsShallow f)
    (h : ReflTransGen (Repacked true) v w) (path : String) :
    (v.fieldValues path).filterMap f = (w.fieldValues path).filterMap f := by
  have hmap : ∀ values : List Json, values.filterMap f = (values.map f).filterMap id := by
    intro values
    rw [List.filterMap_map]
    rfl
  rw [hmap, hmap, map_fieldValues hf h path]

end Repacked

end Json

/-! ### What is done with the values -/

section

variable {d d' : Document} (h : ReflTransGen (Json.Repacked true) d.source d'.source)

include h

theorem Predicate.accepts_of_repacked (p : Predicate) : p.accepts d = p.accepts d' := by
  refine accepts_congr_of_shallow (fun path test htest => ?_) p
  have hany : ∀ values : List Json, values.any test = (values.map test).any id := by
    intro values
    rw [List.any_map]
    rfl
  rw [anyValue, anyValue, hany, hany, Json.Repacked.map_fieldValues htest h path]

theorem SortKey.value?_of_repacked (k : SortKey) : k.value? d = k.value? d' := by
  have hshallow : Json.IsShallow (Option.guard fun v : Json => !v.isObject) := fun _ _ => rfl
  have hvalues := Json.Repacked.filterMap_fieldValues hshallow h k.path
  rw [List.filterMap_eq_filter] at hvalues
  rw [value?, value?, hvalues]

theorem TextedValue.ofDocument_of_repacked (path : String) :
    ofDocument path d = ofDocument path d' := by
  have hshallow : Json.IsShallow Literal.ofJson? := fun _ _ => rfl
  rw [ofDocument, ofDocument, Json.Repacked.filterMap_fieldValues hshallow h path]

end

section

variable {changes : List (Document × Document)}
  (h : ∀ c ∈ changes, ReflTransGen (Json.Repacked true) c.1.source c.2.source)

include h

theorem Predicate.rows_of_repacked (p : Predicate) :
    p.rows (changes.map Prod.fst) = p.rows (changes.map Prod.snd) := by
  refine RowSet.ext_has fun row => ?_
  rw [has_rows, has_rows, List.getElem?_map, List.getElem?_map]
  cases hrow : changes[row]? with
  | none => rfl
  | some c => exact accepts_of_repacked (h c (List.mem_of_getElem? hrow)) p

/-- The sorted documents are the sorted changes, before and after. -/
theorem SortKey.sort_of_repacked (keys : List SortKey) :
    ∃ sorted : List (Document × Document), sorted.Perm changes ∧
      sort keys (changes.map Prod.fst) = sorted.map Prod.fst ∧
      sort keys (changes.map Prod.snd) = sorted.map Prod.snd := by
  refine ⟨changes.mergeSort fun c c' => le keys c.1 c'.1, List.mergeSort_perm changes _, ?_, ?_⟩
  · show (changes.map Prod.fst).mergeSort (le keys) = _
    refine (List.map_mergeSort fun _ _ _ _ => ?_).symm
    rfl
  · show (changes.map Prod.snd).mergeSort (le keys) = _
    refine (List.map_mergeSort fun c hc c' hc' => ?_).symm
    exact congrArg Ordering.isLE (compareBy_congr keys (value?_of_repacked (h c hc))
      (value?_of_repacked (h c' hc')))

theorem Distribution.ofDocuments_of_repacked (path : String) (cap : Nat) :
    ofDocuments path cap (changes.map Prod.fst) = ofDocuments path cap (changes.map Prod.snd) := by
  have hvalues : (changes.map Prod.fst).flatMap (TextedValue.ofDocument path) =
      (changes.map Prod.snd).flatMap (TextedValue.ofDocument path) := by
    rw [List.flatMap_map, List.flatMap_map]
    exact List.flatMap_congr fun c hc => TextedValue.ofDocument_of_repacked (h c hc) path
  rw [ofDocuments, ofDocuments, allBuckets, allBuckets, hvalues]

end

namespace Json

/-- **The values at a path are those that its names lead to**, in the order of the document: the
names are what stands between the dots of the path, and each value is found at one place for each
time it stands there. **Arrays and nulls change nothing else**: documents in which values below the
root have been put into arrays, or arrays have got nulls, match the same predicates in the same
rows, are put in the same order, and are counted in the same buckets. -/
theorem found_through_arrays :
    (∀ path source,
      ((['.'].intercalate ((names path).map String.toList) = path.toList ∧
        ∀ name ∈ names path, '.' ∉ name.toList) ∧
      ∃ found : List Placed, found.map Prod.snd = valuesAt path source ∧
        (found.Pairwise fun x y => Before x.1 y.1) ∧
        ∀ steps v, (steps, v) ∈ found ↔ Reached (names path) source steps v)) ∧
    ∀ changes : List (Document × Document),
      (∀ c ∈ changes, ReflTransGen (Repacked true) c.1.source c.2.source) →
      (∀ p : Predicate, p.rows (changes.map Prod.fst) = p.rows (changes.map Prod.snd)) ∧
      (∀ keys, ∃ sorted : List (Document × Document), sorted.Perm changes ∧
        SortKey.sort keys (changes.map Prod.fst) = sorted.map Prod.fst ∧
        SortKey.sort keys (changes.map Prod.snd) = sorted.map Prod.snd) ∧
      ∀ path cap, Distribution.ofDocuments path cap (changes.map Prod.fst) =
        Distribution.ofDocuments path cap (changes.map Prod.snd) := by
  refine ⟨fun path source => ⟨intercalate_names path, exists_places path source⟩, ?_⟩
  intro changes h
  exact ⟨Predicate.rows_of_repacked h, SortKey.sort_of_repacked h,
    Distribution.ofDocuments_of_repacked h⟩

/-- A task with Ann as its owner, and one with a null and Ann as its owners. -/
theorem found_through_arrays_ann :
    let changed : Document := ⟨0, .object [("owner", .array [.null, .string "ann"])]⟩
    ReflTransGen (Repacked true) (task "ann").source changed.source ∧
      (∃ found : List Placed, found.map Prod.snd = valuesAt "owner" changed.source ∧
        ([.member "owner", .item 1], .string "ann") ∈ found) ∧
      (∀ p : Predicate, p.rows [task "ann"] = p.rows [changed]) ∧
      ∀ cap, Distribution.ofDocuments "owner" cap [task "ann"] =
        Distribution.ofDocuments "owner" cap [changed] := by
  intro changed
  have haround : Repacked true (task "ann").source
      (.object [("owner", .array [.string "ann"])]) :=
    .member true [] [] "owner" (.around (.string "ann"))
  have hnull : Repacked true (.object [("owner", .array [.string "ann"])]) changed.source :=
    .member true [] [] "owner" (.withNull false [] [.string "ann"])
  have hchange := (ReflTransGen.single haround).tail hnull
  obtain ⟨hpaths, harrays⟩ := found_through_arrays
  obtain ⟨-, found, hvalues, -, hfound⟩ := hpaths "owner" changed.source
  obtain ⟨hrows, -, hbuckets⟩ :=
    harrays [(task "ann", changed)] (List.forall_mem_singleton.mpr hchange)
  exact ⟨hchange, ⟨found, hvalues, (hfound _ _).mpr ⟨rfl, rfl, rfl, rfl⟩⟩, hrows, hbuckets "owner"⟩

end Json

end GuardedSearch
