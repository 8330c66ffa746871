import GuardedSearch.Proofs.Double.Places
import Mathlib.Data.List.Induction

/-!
# The least and the greatest of doubles

The least of a list of numbers is found by going through the list and keeping the lesser of the
least number so far and the next one; the greatest one in the same way, with the order turned round.
What is kept at the end is one of the numbers and lies on the right side of all of them, or else it
is what the search has begun with. An infinity beyond which there is nothing is a good beginning: if
there are numbers in the list and the infinity is left at the end, it is one of them.

NaN is no number. It has no place in the order and is passed over.

## Main definitions

* `Double.AtMost` — the order of numbers
* `Double.Selects` — a choice of the one of two numbers that stands in a relation to the other
* `Double.IsExtreme` — a number that stands in a relation to all numbers of a list

## Main results

* `Double.selects_least`, `Double.selects_greatest` — the choices of this kind
* `Double.IsExtreme.concat`, `Double.IsExtreme.foldl` — one more number, and a list of them
* `Double.IsExtreme.mem_of_ne_nil` — the beginning leaves no trace
-/

namespace GuardedSearch

namespace Double

/-! ### The order of numbers -/

/-- The first double is less than the second one, or equal to it as a number. -/
def AtMost (x y : Double) : Prop :=
  x.compare? y = some .lt ∨ x.compare? y = some .eq

instance (x y : Double) : Decidable (AtMost x y) :=
  inferInstanceAs (Decidable (_ ∨ _))

theorem atMost_iff_of_place? {x y : Double} {a b : Int} (hx : x.place? = some a)
    (hy : y.place? = some b) : x.AtMost y ↔ a ≤ b := by
  rw [AtMost, compare?_of_place? hx hy, Option.some_inj, Option.some_inj, compare_lt_iff_lt,
    compare_eq_iff_eq]
  exact le_iff_lt_or_eq.symm

theorem exists_place?_of_ne_nan {x : Double} (h : x ≠ nan) : ∃ a, x.place? = some a := by
  cases x with
  | nan => exact absurd rfl h
  | infinite negative => exact ⟨_, rfl⟩
  | finite f => exact ⟨_, rfl⟩

theorem ne_nan_of_place? {x : Double} {a : Int} (h : x.place? = some a) : x ≠ nan := by
  rintro rfl
  cases h

namespace AtMost

variable {x y z : Double}

theorem exists_places (h : x.AtMost y) :
    ∃ a b, x.place? = some a ∧ y.place? = some b ∧ a ≤ b := by
  have hsome : ∃ o, x.compare? y = some o := h.elim (fun h => ⟨_, h⟩) fun h => ⟨_, h⟩
  obtain ⟨o, ho⟩ := hsome
  rw [compare?] at ho
  split at ho
  case h_1 a b hx hy => exact ⟨a, b, hx, hy, (atMost_iff_of_place? hx hy).mp h⟩
  case h_2 => cases ho

theorem refl (h : x ≠ nan) : x.AtMost x := by
  obtain ⟨a, ha⟩ := exists_place?_of_ne_nan h
  exact (atMost_iff_of_place? ha ha).mpr le_rfl

theorem trans (hxy : x.AtMost y) (hyz : y.AtMost z) : x.AtMost z := by
  obtain ⟨a, b, hx, hy, hab⟩ := hxy.exists_places
  obtain ⟨b', c, hy', hz, hbc⟩ := hyz.exists_places
  obtain rfl : b = b' := Option.some.inj (hy.symm.trans hy')
  exact (atMost_iff_of_place? hx hz).mpr (hab.trans hbc)

theorem left_ne_nan (h : x.AtMost y) : x ≠ nan := by
  obtain ⟨a, b, hx, -, -⟩ := h.exists_places
  exact ne_nan_of_place? hx

theorem right_ne_nan (h : x.AtMost y) : y ≠ nan := by
  obtain ⟨a, b, -, hy, -⟩ := h.exists_places
  exact ne_nan_of_place? hy

end AtMost

/-- At the bounds of the order there are the infinities alone. -/
theorem eq_infinite_of_place? {x : Double} {a : Int} (h : x.place? = some a)
    (hle : unitsBound ≤ a.natAbs) : x = infinite (a < 0) := by
  have hpos := unitsBound_pos
  cases x with
  | nan => cases h
  | infinite negative =>
    cases negative with
    | false =>
      obtain rfl : (unitsBound : Int) = a := Option.some.inj h
      rw [decide_eq_false (by omega)]
    | true =>
      obtain rfl : -(unitsBound : Int) = a := Option.some.inj h
      rw [decide_eq_true (by omega)]
  | finite f =>
    obtain rfl : f.signedUnits = a := Option.some.inj h
    have hlt : f.signedUnits.natAbs < unitsBound := f.natAbs_signedUnits ▸ f.representable.1
    omega

/-- Nothing is greater than the positive infinity. -/
theorem eq_of_infinite_atMost {x : Double} (h : (infinite false).AtMost x) :
    x = infinite false := by
  obtain ⟨a, b, ha, hb, hab⟩ := h.exists_places
  obtain rfl : (unitsBound : Int) = a := Option.some.inj ha
  rw [eq_infinite_of_place? hb (by omega), decide_eq_false (by omega)]

/-- Nothing is less than the negative infinity. -/
theorem eq_of_atMost_infinite {x : Double} (h : x.AtMost (infinite true)) :
    x = infinite true := by
  have hpos := unitsBound_pos
  obtain ⟨b, a, hb, ha, hab⟩ := h.exists_places
  obtain rfl : -(unitsBound : Int) = a := Option.some.inj ha
  rw [eq_infinite_of_place? hb (by omega), decide_eq_true (by omega)]

/-! ### Choices -/

/-- Of two numbers, one that stands in the relation to the other is chosen, and NaN is never
chosen. -/
structure Selects (r : Double → Double → Prop) (choose : Double → Double → Double) : Prop where
  refl : ∀ {x}, x ≠ nan → r x x
  trans : ∀ {x y z}, r x y → r y z → r x z
  ne_nan : ∀ {x y}, r x y → x ≠ nan
  number : ∀ {x y}, x ≠ nan → y ≠ nan → choose x y = x ∧ r x y ∨ choose x y = y ∧ r y x
  nan : ∀ x, choose x nan = x

theorem selects_least : Selects AtMost least where
  refl := AtMost.refl
  trans := AtMost.trans
  ne_nan := AtMost.left_ne_nan
  nan := least_nan
  number {x y} hx hy := by
    obtain ⟨a, ha⟩ := exists_place?_of_ne_nan hx
    obtain ⟨b, hb⟩ := exists_place?_of_ne_nan hy
    rw [least, compare?_of_place? ha hb, atMost_iff_of_place? ha hb, atMost_iff_of_place? hb ha]
    rcases lt_trichotomy a b with hlt | heq | hgt
    · rw [compare_lt_iff_lt.mpr hlt]
      exact .inl ⟨rfl, hlt.le⟩
    · rw [compare_eq_iff_eq.mpr heq]
      exact .inr ⟨rfl, heq.ge⟩
    · rw [compare_gt_iff_gt.mpr hgt]
      exact .inr ⟨rfl, hgt.le⟩

theorem selects_greatest : Selects (fun x y => AtMost y x) greatest where
  refl := AtMost.refl
  trans hyx hzy := hzy.trans hyx
  ne_nan := AtMost.right_ne_nan
  nan := greatest_nan
  number {x y} hx hy := by
    obtain ⟨a, ha⟩ := exists_place?_of_ne_nan hx
    obtain ⟨b, hb⟩ := exists_place?_of_ne_nan hy
    rw [greatest, compare?_of_place? ha hb, atMost_iff_of_place? ha hb,
      atMost_iff_of_place? hb ha]
    rcases lt_trichotomy a b with hlt | heq | hgt
    · rw [compare_lt_iff_lt.mpr hlt]
      exact .inr ⟨rfl, hlt.le⟩
    · rw [compare_eq_iff_eq.mpr heq]
      exact .inr ⟨rfl, heq.le⟩
    · rw [compare_gt_iff_gt.mpr hgt]
      exact .inl ⟨rfl, hgt.le⟩

/-! ### Extremes -/

/-- The number is the beginning or in the list, and stands in the relation to both. -/
structure IsExtreme (r : Double → Double → Prop) (start extreme : Double) (xs : List Double) :
    Prop where
  mem : extreme = start ∨ extreme ∈ xs
  start : r extreme start
  all : ∀ x ∈ xs, r extreme x

namespace IsExtreme

variable {r : Double → Double → Prop} {choose : Double → Double → Double}
  {start extreme x : Double} {xs : List Double}

theorem nil (hr : Selects r choose) (h : start ≠ nan) : IsExtreme r start start [] where
  mem := .inl rfl
  start := hr.refl h
  all := List.forall_mem_nil _

/-- What is chosen between an extreme and one more number is an extreme again. -/
theorem concat (hr : Selects r choose) (h : IsExtreme r start extreme xs) (hx : x ≠ nan) :
    IsExtreme r start (choose extreme x) (xs ++ [x]) := by
  rcases hr.number (hr.ne_nan h.start) hx with ⟨hchoose, hrel⟩ | ⟨hchoose, hrel⟩
  · rw [hchoose]
    exact ⟨h.mem.imp_right (List.mem_append_left _), h.start,
      List.forall_mem_append.mpr ⟨h.all, List.forall_mem_singleton.mpr hrel⟩⟩
  · rw [hchoose]
    exact ⟨.inr (List.mem_append_right _ List.mem_cons_self), hr.trans hrel h.start,
      List.forall_mem_append.mpr ⟨fun y hy => hr.trans hrel (h.all y hy),
        List.forall_mem_singleton.mpr (hr.refl hx)⟩⟩

/-- **A beginning beyond which there is nothing leaves no trace**, if there are any numbers. -/
theorem mem_of_ne_nil (h : IsExtreme r start extreme xs) (hstart : ∀ x, r start x → x = start)
    (hne : xs ≠ []) : extreme ∈ xs := by
  rcases h.mem with rfl | hmem
  · obtain ⟨y, ys, rfl⟩ := List.exists_cons_of_ne_nil hne
    have hy : y = extreme := hstart y (h.all y List.mem_cons_self)
    exact hy ▸ List.mem_cons_self
  · exact hmem

/-- Going through a list of numbers ends in an extreme. -/
theorem foldl (hr : Selects r choose) (hstart : start ≠ nan) (hxs : ∀ x ∈ xs, x ≠ nan) :
    IsExtreme r start (xs.foldl choose start) xs := by
  induction xs using List.reverseRecOn with
  | nil => exact nil hr hstart
  | append_singleton xs x ih =>
    obtain ⟨hxs, hx⟩ := List.forall_mem_append.mp hxs
    rw [List.foldl_append]
    exact (ih hxs).concat hr (hx x List.mem_cons_self)

end IsExtreme

end Double

end GuardedSearch
