import GuardedSearch.Document.Values
import GuardedSearch.Proofs.Json.Induction
import Mathlib.Data.List.Basic
import Mathlib.Data.List.TakeWhile

/-!
# Places in documents

The values at a path are found level by level: a list of values is replaced by what they hold under
the next name, and arrays are dissolved on the way. Nothing in this says where a value was found.

Here a value is found at a place, which is a list of steps from the root: into a member of an
object, or to an item of an array. A path leads to the places whose steps into members are its
names, in their order; steps to items may come in between, but not before the first of them, so that
the root is not passed through if it is an array. `Json.places` finds these places in the order in
which they stand in the document. If the places are forgotten, what is left are the values at the
path, and so these come in the order of the document, and a value that stands there twice comes
twice.

## Main definitions

* `Json.Step`, `Json.at?` — steps, and the value that steps lead to
* `Json.Reached` — a value that a list of names leads to, and its place
* `Json.Before` — the order of places in a document

## Main results

* `Json.map_snd_places` — the values at a path, and places for them
* `Json.mem_places_iff`, `Json.pairwise_places` — which places these are, and in which order
* `Json.intercalate_names` — the names that a path consists of
* `Json.exists_places` — the first two together, for the values at a path
-/

namespace GuardedSearch

namespace Text

/-- Pieces do without the separator, and are the text again if it is put between them. -/
theorem intercalate_pieces (separator : Char) (cs : List Char) :
    [separator].intercalate (pieces separator cs) = cs ∧
      ∀ piece ∈ pieces separator cs, separator ∉ piece := by
  induction cs with
  | nil => simp [pieces, List.intercalate]
  | cons c rest ih =>
    obtain ⟨hjoin, hfree⟩ := ih
    obtain ⟨piece, more, hpieces⟩ := List.exists_cons_of_ne_nil (pieces_ne_nil separator rest)
    rw [hpieces] at hjoin hfree
    rw [pieces]
    by_cases hc : c = separator
    · subst hc
      rw [if_pos rfl, hpieces]
      refine ⟨?_, List.forall_mem_cons.mpr ⟨List.not_mem_nil, hfree⟩⟩
      rw [← hjoin]
      rfl
    · obtain ⟨hpiece, hmore⟩ := List.forall_mem_cons.mp hfree
      rw [if_neg hc, hpieces]
      refine ⟨?_, List.forall_mem_cons.mpr ⟨?_, hmore⟩⟩
      · cases more with
        | nil =>
          simp only [List.intercalate, List.intersperse_singleton, List.flatten_singleton]
            at hjoin ⊢
          rw [hjoin]
        | cons next more =>
          rw [← hjoin]
          rfl
      · exact List.not_mem_cons_of_ne_of_not_mem (Ne.symm hc) hpiece

end Text

namespace Json

/-! ### Steps -/

/-- A step from a value to one that it holds. -/
inductive Step where
  | member (name : String)
  | item (index : Nat)
  deriving DecidableEq, Repr

namespace Step

/-- The name of the member that a step leads into. -/
def name? : Step → Option String
  | member name => some name
  | item _ => none

/-- Whether a step leads to an item of an array. -/
def isItem : Step → Bool
  | member _ => false
  | item _ => true

theorem isItem_iff {step : Step} : step.isItem = true ↔ ∃ i, step = .item i := by
  cases step with
  | member name => simp [isItem]
  | item i => simp [isItem]

theorem filterMap_name?_of_isItem {steps : List Step} (h : ∀ step ∈ steps, step.isItem = true) :
    steps.filterMap name? = [] := by
  rw [List.filterMap_eq_nil_iff]
  intro step hstep
  obtain ⟨i, rfl⟩ := isItem_iff.mp (h step hstep)
  rfl

end Step

/-- The value that one step leads to. -/
def into? : Step → Json → Option Json
  | .member name, v => v.member? name
  | .item i, array items => items[i]?
  | .item _, _ => none

/-- The value that steps lead to. -/
def at? : List Step → Json → Option Json
  | [], v => some v
  | step :: steps, v => (into? step v).bind (at? steps)

/-- Whether a value is one that can be found: neither a null nor an array. -/
def isFound : Json → Bool
  | null | array _ => false
  | _ => true

/-- A value that a list of names leads to from the root of a document, and the steps to it. -/
structure Reached (names : List String) (source : Json) (steps : List Step) (v : Json) : Prop where
  value : at? steps source = some v
  names : steps.filterMap Step.name? = names
  root : steps.head?.any Step.isItem = false
  found : v.isFound = true

/-- The first place comes before the second one in a document: where they part, it goes to an
earlier item of the same array. -/
def Before (p q : List Step) : Prop :=
  ∃ steps i j, i < j ∧ steps ++ [.item i] <+: p ∧ steps ++ [.item j] <+: q

variable {names : List String} {name : String} {source v w : Json} {steps p q : List Step}

theorem at?_append (steps rest : List Step) (v : Json) :
    at? (steps ++ rest) v = (at? steps v).bind (at? rest) := by
  induction steps generalizing v with
  | nil => rfl
  | cons step steps ih =>
    rw [List.cons_append, at?, at?]
    cases into? step v with
    | none => rfl
    | some u => exact ih u

theorem Before.cons (h : Before p q) (step : Step) : Before (step :: p) (step :: q) := by
  obtain ⟨steps, i, j, hij, hp, hq⟩ := h
  exact ⟨step :: steps, i, j, hij, List.cons_prefix_cons.mpr ⟨rfl, hp⟩,
    List.cons_prefix_cons.mpr ⟨rfl, hq⟩⟩

theorem Before.append_left (h : Before p q) (steps : List Step) :
    Before (steps ++ p) (steps ++ q) := by
  induction steps with
  | nil => exact h
  | cons step steps ih => exact ih.cons step

theorem Before.append_right (h : Before p q) (rest rest' : List Step) :
    Before (p ++ rest) (q ++ rest') := by
  obtain ⟨steps, i, j, hij, hp, hq⟩ := h
  exact ⟨steps, i, j, hij, hp.trans (List.prefix_append p rest),
    hq.trans (List.prefix_append q rest')⟩

theorem before_of_lt {i j : Nat} (h : i < j) (p q : List Step) :
    Before (.item i :: p) (.item j :: q) :=
  ⟨[], i, j, h, ⟨p, rfl⟩, ⟨q, rfl⟩⟩

/-! ### Places below arrays -/

/-- A value at a place. -/
abbrev Placed := List Step × Json

/-- The same values, seen from some steps further away. -/
def behind (steps : List Step) (xs : List Placed) : List Placed :=
  xs.map fun x => (steps ++ x.1, x.2)

mutual

/-- What a value holds once arrays have been passed through, with the places. -/
def leafPlaces : Json → List Placed
  | null => []
  | array items => leafPlacesFrom 0 items
  | bool b => [([], bool b)]
  | number n => [([], number n)]
  | string s => [([], string s)]
  | object members => [([], object members)]

/-- What the items of an array hold; `i` is the index of the first of them. -/
def leafPlacesFrom (i : Nat) : List Json → List Placed
  | [] => []
  | v :: rest => behind [.item i] (leafPlaces v) ++ leafPlacesFrom (i + 1) rest

end

/-- The values that a list of names leads to, with the places. -/
def places : List String → Json → List Placed
  | [], v => [([], v)]
  | name :: names, v =>
    match v.member? name with
    | none => []
    | some child =>
      behind [.member name] ((leafPlaces child).flatMap fun x => behind x.1 (places names x.2))

theorem map_snd_behind (steps : List Step) (xs : List Placed) :
    (behind steps xs).map Prod.snd = xs.map Prod.snd := by
  rw [behind, List.map_map]
  rfl

theorem mem_behind_iff {xs : List Placed} :
    (p, w) ∈ behind steps xs ↔ ∃ rest, p = steps ++ rest ∧ (rest, w) ∈ xs := by
  simp only [behind, List.mem_map, Prod.exists, Prod.mk.injEq]
  constructor
  · rintro ⟨rest, u, hmem, rfl, rfl⟩
    exact ⟨rest, rfl, hmem⟩
  · rintro ⟨rest, rfl, hmem⟩
    exact ⟨rest, w, hmem, rfl, rfl⟩

/-- Places keep their order if they are seen from further away. -/
theorem pairwise_behind {xs : List Placed} (h : xs.Pairwise fun x y => Before x.1 y.1) :
    (behind steps xs).Pairwise fun x y => Before x.1 y.1 := by
  rw [behind, List.pairwise_map]
  exact h.imp fun hbefore => hbefore.append_left steps

theorem map_snd_leafPlacesFrom {items : List Json}
    (h : ∀ v ∈ items, (leafPlaces v).map Prod.snd = leaves v) (i : Nat) :
    (leafPlacesFrom i items).map Prod.snd = leavesOf items := by
  induction items generalizing i with
  | nil => rfl
  | cons v rest ih =>
    obtain ⟨hv, hrest⟩ := List.forall_mem_cons.mp h
    rw [leafPlacesFrom, leavesOf, List.map_append, map_snd_behind, hv, ih hrest]

theorem map_snd_leafPlaces (v : Json) : (leafPlaces v).map Prod.snd = leaves v := by
  induction v using Json.induction with
  | null | bool | number | string | object => rfl
  | array items ih => exact map_snd_leafPlacesFrom ih 0

theorem mem_leafPlacesFrom_iff {items : List Json} {i : Nat} :
    (steps, w) ∈ leafPlacesFrom i items ↔
      ∃ k v rest, items[k]? = some v ∧ steps = .item (i + k) :: rest ∧
        (rest, w) ∈ leafPlaces v := by
  induction items generalizing i with
  | nil => simp [leafPlacesFrom]
  | cons u items ih =>
    rw [leafPlacesFrom, List.mem_append, mem_behind_iff, ih]
    constructor
    · rintro (⟨rest, rfl, hmem⟩ | ⟨k, v, rest, hk, rfl, hmem⟩)
      · exact ⟨0, u, rest, rfl, rfl, hmem⟩
      · exact ⟨k + 1, v, rest, hk, by rw [Nat.add_right_comm, Nat.add_assoc], hmem⟩
    · rintro ⟨k, v, rest, hk, rfl, hmem⟩
      cases k with
      | zero =>
        obtain rfl := Option.some.inj hk
        exact .inl ⟨rest, rfl, hmem⟩
      | succ k => exact .inr ⟨k, v, rest, hk, by rw [Nat.add_right_comm, Nat.add_assoc], hmem⟩

theorem mem_leafPlaces_iff_of_isFound (h : v.isFound = true) : (steps, w) ∈ leafPlaces v ↔
    at? steps v = some w ∧ (∀ step ∈ steps, step.isItem = true) ∧ w.isFound = true := by
  have hplaces : leafPlaces v = [([], v)] := by
    cases v with
    | null | array => cases h
    | bool | number | string | object => rfl
  rw [hplaces, List.mem_singleton, Prod.mk.injEq]
  constructor
  · rintro ⟨rfl, rfl⟩
    exact ⟨rfl, List.forall_mem_nil _, h⟩
  · rintro ⟨hat, hitems, -⟩
    cases steps with
    | nil => exact ⟨rfl, (Option.some.inj hat).symm⟩
    | cons step steps =>
      -- a value that is no array has no items
      obtain ⟨i, rfl⟩ := Step.isItem_iff.mp (hitems step List.mem_cons_self)
      cases v with
      | null | array => cases h
      | bool | number | string | object => cases hat

/-- The places below arrays are those that steps to items alone lead to. -/
theorem mem_leafPlaces_iff : (steps, w) ∈ leafPlaces v ↔
    at? steps v = some w ∧ (∀ step ∈ steps, step.isItem = true) ∧ w.isFound = true := by
  induction v using Json.induction generalizing steps with
  | bool | number | string | object => exact mem_leafPlaces_iff_of_isFound rfl
  | null =>
    refine ⟨nofun, fun ⟨hat, hitems, hfound⟩ => ?_⟩
    cases steps with
    | nil =>
      obtain rfl := Option.some.inj hat
      cases hfound
    | cons step steps =>
      obtain ⟨i, rfl⟩ := Step.isItem_iff.mp (hitems step List.mem_cons_self)
      cases hat
  | array items ih =>
    rw [leafPlaces, mem_leafPlacesFrom_iff]
    constructor
    · rintro ⟨k, v, rest, hk, rfl, hmem⟩
      obtain ⟨hat, hitems, hfound⟩ := (ih v (List.mem_of_getElem? hk)).mp hmem
      refine ⟨?_, List.forall_mem_cons.mpr ⟨rfl, hitems⟩, hfound⟩
      rw [Nat.zero_add, at?, into?, hk]
      exact hat
    · rintro ⟨hat, hitems, hfound⟩
      cases steps with
      | nil =>
        obtain rfl := Option.some.inj hat
        cases hfound
      | cons step rest =>
        obtain ⟨i, rfl⟩ := Step.isItem_iff.mp (hitems step List.mem_cons_self)
        obtain ⟨v, hk, hat⟩ := Option.bind_eq_some_iff.mp hat
        have hmem := (ih v (List.mem_of_getElem? hk)).mpr
          ⟨hat, (List.forall_mem_cons.mp hitems).2, hfound⟩
        exact ⟨i, v, rest, hk, by rw [Nat.zero_add], hmem⟩

theorem pairwise_leafPlacesFrom {items : List Json}
    (h : ∀ v ∈ items, (leafPlaces v).Pairwise fun x y => Before x.1 y.1) (i : Nat) :
    (leafPlacesFrom i items).Pairwise fun x y => Before x.1 y.1 := by
  induction items generalizing i with
  | nil => exact .nil
  | cons v rest ih =>
    obtain ⟨hv, hrest⟩ := List.forall_mem_cons.mp h
    rw [leafPlacesFrom, List.pairwise_append]
    refine ⟨pairwise_behind hv, ih hrest (i + 1), ?_⟩
    rintro ⟨p, u⟩ hp ⟨q, w⟩ hq
    obtain ⟨p, rfl, -⟩ := mem_behind_iff.mp hp
    obtain ⟨k, -, q, -, rfl, -⟩ := mem_leafPlacesFrom_iff.mp hq
    exact before_of_lt (by omega) p q

theorem pairwise_leafPlaces (v : Json) :
    (leafPlaces v).Pairwise fun x y => Before x.1 y.1 := by
  induction v using Json.induction with
  | null => exact .nil
  | bool | number | string | object => exact List.pairwise_singleton _ _
  | array items ih => exact pairwise_leafPlacesFrom ih 0

/-! ### Places at a path -/

theorem follow_eq_flatMap (names : List String) (vs : List Json) :
    follow names vs = vs.flatMap fun v => follow names [v] := by
  induction vs with
  | nil => exact follow_nil names
  | cons v vs ih => rw [List.flatMap_cons, ← ih, ← follow_append, List.singleton_append]

/-- **Forgetting the places leaves the values** that the names lead to. -/
theorem map_snd_places (names : List String) (v : Json) :
    (places names v).map Prod.snd = follow names [v] := by
  induction names generalizing v with
  | nil => rfl
  | cons name names ih =>
    rw [places, follow, List.flatMap_singleton, under]
    cases v.member? name with
    | none => exact (follow_nil names).symm
    | some child =>
      show (behind _ _).map Prod.snd = follow names (leaves child)
      rw [map_snd_behind, List.map_flatMap, follow_eq_flatMap, ← map_snd_leafPlaces,
        List.flatMap_map]
      exact List.flatMap_congr fun x _ => by rw [map_snd_behind, ih]

/-- The first name leads into a member, arrays in it are passed through, and the other names are
followed from what is found there. -/
theorem reached_cons_iff : Reached (name :: names) source steps v ↔
    ∃ child items rest w, source.member? name = some child ∧
      steps = .member name :: (items ++ rest) ∧ (items, w) ∈ leafPlaces child ∧
        Reached names w rest v := by
  constructor
  · rintro ⟨hat, hnames, hroot, hfound⟩
    obtain _ | ⟨n | i, tail⟩ := steps
    · cases hnames
    · obtain ⟨rfl, htail⟩ : n = name ∧ tail.filterMap Step.name? = names := List.cons.inj hnames
      obtain ⟨child, hchild, hat⟩ := Option.bind_eq_some_iff.mp hat
      have hsplit : tail.takeWhile Step.isItem ++ tail.dropWhile Step.isItem = tail :=
        List.takeWhile_append_dropWhile
      have hitems : ∀ step ∈ tail.takeWhile Step.isItem, step.isItem = true :=
        fun step hstep => List.mem_takeWhile_imp hstep
      rw [← hsplit, at?_append] at hat
      rw [← hsplit, List.filterMap_append, Step.filterMap_name?_of_isItem hitems,
        List.nil_append] at htail
      obtain ⟨w, hw, hat⟩ := Option.bind_eq_some_iff.mp hat
      have hhead := List.head?_dropWhile_not Step.isItem tail
      refine ⟨child, _, _, w, hchild, by rw [hsplit], mem_leafPlaces_iff.mpr ⟨hw, hitems, ?_⟩,
        hat, htail, ?_, hfound⟩
      · -- what is found here is what was to be found, or an object that the next name leads into
        cases hrest : tail.dropWhile Step.isItem with
        | nil =>
          rw [hrest] at hat
          obtain rfl := Option.some.inj hat
          exact hfound
        | cons step rest =>
          rw [hrest] at hat hhead
          obtain n | i := step
          · obtain ⟨u, hu, -⟩ := Option.bind_eq_some_iff.mp hat
            cases w with
            | object => rfl
            | null | bool | number | string | array => cases hu
          · cases hhead
      · cases hrest : tail.dropWhile Step.isItem with
        | nil => rfl
        | cons step rest =>
          rw [hrest] at hhead
          simpa using hhead
    · cases hroot
  · rintro ⟨child, items, rest, w, hchild, rfl, hmem, hat, hnames, -, hfound⟩
    obtain ⟨hw, hitems, -⟩ := mem_leafPlaces_iff.mp hmem
    refine ⟨?_, ?_, rfl, hfound⟩
    · rw [at?, into?, hchild, Option.bind_some, at?_append, hw]
      exact hat
    · show name :: (items ++ rest).filterMap Step.name? = name :: names
      rw [List.filterMap_append, Step.filterMap_name?_of_isItem hitems, List.nil_append, hnames]

theorem reached_nil_iff :
    Reached [] source steps v ↔ steps = [] ∧ v = source ∧ v.isFound = true := by
  constructor
  · rintro ⟨hat, hnames, hroot, hfound⟩
    obtain _ | ⟨n | i, tail⟩ := steps
    · exact ⟨rfl, (Option.some.inj hat).symm, hfound⟩
    · cases hnames
    · cases hroot
  · rintro ⟨rfl, rfl, hfound⟩
    exact ⟨rfl, rfl, rfl, hfound⟩

/-- **The places found are those that the names lead to.** Without a name nothing is followed, and
then the root must be a value that can be found. -/
theorem mem_places_iff (h : names ≠ [] ∨ source.isFound = true) :
    (steps, v) ∈ places names source ↔ Reached names source steps v := by
  induction names generalizing source steps with
  | nil =>
    have hfound : source.isFound = true := h.resolve_left fun hne => hne rfl
    rw [places, List.mem_singleton, Prod.mk.injEq, reached_nil_iff]
    constructor
    · rintro ⟨rfl, rfl⟩
      exact ⟨rfl, rfl, hfound⟩
    · rintro ⟨rfl, rfl, -⟩
      exact ⟨rfl, rfl⟩
  | cons name names ih =>
    rw [places, reached_cons_iff]
    cases source.member? name with
    | none => simp
    | some child =>
      simp only [Option.some.injEq, mem_behind_iff, List.mem_flatMap, Prod.exists]
      constructor
      · rintro ⟨-, rfl, items, w, hitems, rest, rfl, hmem⟩
        have hw := (mem_leafPlaces_iff.mp hitems).2.2
        exact ⟨child, items, rest, w, rfl, rfl, hitems, (ih (.inr hw)).mp hmem⟩
      · rintro ⟨_, items, rest, w, rfl, rfl, hitems, hrest⟩
        have hw := (mem_leafPlaces_iff.mp hitems).2.2
        exact ⟨items ++ rest, rfl, items, w, hitems, rest, rfl, (ih (.inr hw)).mpr hrest⟩

/-- **The places are found in the order of the document.** -/
theorem pairwise_places (names : List String) (v : Json) :
    (places names v).Pairwise fun x y => Before x.1 y.1 := by
  induction names generalizing v with
  | nil => exact List.pairwise_singleton _ _
  | cons name names ih =>
    rw [places]
    cases v.member? name with
    | none => exact .nil
    | some child =>
      refine pairwise_behind (List.pairwise_flatMap.mpr ⟨fun x _ => pairwise_behind (ih x.2), ?_⟩)
      refine (pairwise_leafPlaces child).imp ?_
      rintro x y hbefore ⟨p, u⟩ hp ⟨q, w⟩ hq
      obtain ⟨rest, rfl, -⟩ := mem_behind_iff.mp hp
      obtain ⟨rest', rfl, -⟩ := mem_behind_iff.mp hq
      exact hbefore.append_right rest rest'

/-- The names of a path are what stands between its dots. -/
theorem intercalate_names (path : String) :
    ['.'].intercalate ((Json.names path).map String.toList) = path.toList ∧
      ∀ name ∈ Json.names path, '.' ∉ name.toList := by
  obtain ⟨hjoin, hfree⟩ := Text.intercalate_pieces '.' path.toList
  have hchars : (Json.names path).map String.toList = Text.pieces '.' path.toList := by
    rw [Json.names, List.map_map]
    exact List.map_id'' (fun cs => String.toList_ofList) _
  rw [hchars]
  refine ⟨hjoin, ?_⟩
  intro name hname
  obtain ⟨piece, hpiece, rfl⟩ := List.mem_map.mp hname
  rw [String.toList_ofList]
  exact hfree piece hpiece

theorem names_ne_nil (path : String) : Json.names path ≠ [] := by
  intro h
  exact Text.pieces_ne_nil '.' path.toList (List.map_eq_nil_iff.mp h)

/-- **The values at a path have places**, which are all those that the names of the path lead to,
and stand in the order of the document. -/
theorem exists_places (path : String) (source : Json) :
    ∃ found : List Placed, found.map Prod.snd = valuesAt path source ∧
      (found.Pairwise fun x y => Before x.1 y.1) ∧
        ∀ steps v, (steps, v) ∈ found ↔ Reached (Json.names path) source steps v :=
  ⟨places (Json.names path) source, map_snd_places (Json.names path) source,
    pairwise_places (Json.names path) source, fun _ _ => mem_places_iff (.inl (names_ne_nil path))⟩

end Json

end GuardedSearch
