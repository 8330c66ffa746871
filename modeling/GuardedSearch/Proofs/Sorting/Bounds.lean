import GuardedSearch.Proofs.Document.Stored
import GuardedSearch.Proofs.Double.Alike
import GuardedSearch.Proofs.Instant.Order
import Mathlib.Data.String.Basic

/-!
# Sorting and bounds

A bound is compared with what a stored value denotes, a number or an instant. Sorting compares
stored values without knowing what they are for: by their kinds, and texts by their characters. So
an ascending order need not be one of what the values denote, and a bound may let in a document and
keep out one that stands before it.

It is one among values that are alike: JSON numbers, which for a date count milliseconds, and texts
that write the same kind of thing digit under digit. Of two such values, a bound from above that
lets in the second lets in the first.

## Main definitions

* `Json.Alike` — values that sorting orders by what they denote

## Main results

* `Json.compareTo?_eq_lt_of_alike` — of values that are alike, the first one is below a bound if
  the second one is
* `sorted_within_bounds` — so it is with documents that are sorted by such values
* `ten_sorted_before_nine` — with other values it is not
-/

namespace GuardedSearch

open Double (intPlace)

/-- Two texts write values of a type digit under digit. -/
def DataType.WrittenAlike : DataType → List Char → List Char → Prop
  | .date => Instant.WrittenAlike
  | .string | .int | .double | .boolean | .entity => Double.WrittenAlike

/-- Two stored values of a property are one value, or both numbers, or texts that write values of
the property's type digit under digit and have the same white space around them. -/
inductive Json.Alike (type : DataType) : Json → Json → Prop
  | same (v : Json) : Alike type v v
  | numbers (m n : Number) : Alike type (.number m) (.number n)
  | texts {s t : String} (shape : Text.SameShape s.toList t.toList)
      (written : type.WrittenAlike (Text.trimChars s.toList) (Text.trimChars t.toList)) :
      Alike type (.string s) (.string t)

namespace Json

variable {v w : Json} {type : DataType}

/-! ### The order of values that are alike -/

theorem not_toList_lt_of_order {s t : String} (h : (order (string s) (string t)).isLE = true) :
    ¬ t.toList < s.toList := by
  rw [← String.lt_iff_toList_lt, not_lt]
  exact compare_le_iff_le.mp (Ordering.isLE_iff_ne_gt.mp h)

/-- White space around texts of one shape has no part in their order. -/
theorem not_trimChars_lt_of_order {s t : String} (shape : Text.SameShape s.toList t.toList)
    (h : (order (string s) (string t)).isLE = true) :
    ¬ Text.trimChars t.toList < Text.trimChars s.toList := by
  rw [← shape.symm.trimChars.2]
  exact not_toList_lt_of_order h

theorem place_le_of_order {m n : Number} (h : (order (number m) (number n)).isLE = true) :
    m.place ≤ n.place := by
  rw [order_number] at h
  exact Int.isLE_compare.mp h

theorem Number.place?_toDouble (n : Number) : n.toDouble.place? = some n.place :=
  (Option.some_get _).symm

/-- Sorting orders numbers that are alike as the doubles that they are compared as. -/
theorem exists_place_le_of_alike (halike : Alike type v w) (hdate : type ≠ .date) (hne : v ≠ w)
    (hle : (order v w).isLE = true) {x y : Double} (hx : v.toDouble? = some x)
    (hy : w.toDouble? = some y) : ∃ p q, x.place? = some p ∧ y.place? = some q ∧ p ≤ q := by
  cases halike with
  | same v => exact absurd rfl hne
  | numbers m n =>
    obtain rfl := Option.some.inj hx
    obtain rfl := Option.some.inj hy
    exact ⟨_, _, m.place?_toDouble, n.place?_toDouble, place_le_of_order hle⟩
  | @texts s t shape written =>
    have hwritten : Double.WrittenAlike (Text.trimChars s.toList) (Text.trimChars t.toList) := by
      cases type with
      | date => exact absurd rfl hdate
      | string | int | double | boolean | entity => exact written
    obtain ⟨q, p, hq, hp, hpq⟩ :=
      Double.place_le_of_writtenAlike hwritten.symm hy hx (not_trimChars_lt_of_order shape hle)
    exact ⟨p, q, hp, hq, hpq⟩

/-- Only a whole number denotes an instant. -/
theorem exists_ofMilliseconds?_of_toInstant? {n : Number} {t : Instant}
    (h : (number n).toInstant? = some t) :
    ∃ ms : Int, Instant.ofMilliseconds? ms = some t ∧ n.place = intPlace ms := by
  obtain ⟨ms, hms, ht⟩ := Option.bind_eq_some_iff.mp h
  refine ⟨ms, ht, ?_⟩
  obtain rfl := Number.eq_whole_of_int64? hms
  exact Option.some.inj ((Number.whole ms).place?_toDouble.symm.trans (Double.place?_ofInt ms))

/-- Sorting orders dates that are alike as the instants that they denote. -/
theorem notAfter_of_alike (halike : Alike .date v w) (hne : v ≠ w)
    (hle : (order v w).isLE = true) {s t : Instant} (hs : v.toInstant? = some s)
    (ht : w.toInstant? = some t) : s.NotAfter t := by
  cases halike with
  | same v => exact absurd rfl hne
  | numbers m n =>
    obtain ⟨i, hi, hplace⟩ := exists_ofMilliseconds?_of_toInstant? hs
    obtain ⟨j, hj, hplace'⟩ := exists_ofMilliseconds?_of_toInstant? ht
    have hplaces : intPlace i ≤ intPlace j := hplace ▸ hplace' ▸ place_le_of_order hle
    refine Instant.notAfter_of_ofMilliseconds? hi hj (not_lt.mp fun hlt => ?_)
    have hsmall := Instant.natAbs_lt_of_ofMilliseconds? hj
    exact absurd (Double.intPlace_lt hlt (.inl hsmall)) (Int.not_lt.mpr hplaces)
  | texts shape written =>
    exact Instant.notAfter_of_writtenAlike written.symm ht hs (not_trimChars_lt_of_order shape hle)

/-- **Of two values that are alike, the first one is below a bound if the second one is**, provided
that both can be compared with it and that sorting leaves them in their order. -/
theorem compareTo?_eq_lt_of_alike {u : Literal} (hu : u.HasType type)
    (hrange : type.hasRange = true) (halike : Alike type v w) (hle : (order v w).isLE = true)
    (hv : (v.compareTo? u).isSome) (hw : w.compareTo? u = some .lt) :
    v.compareTo? u = some .lt := by
  rcases eq_or_ne v w with rfl | hne
  · exact hw
  have hdoubles : ∀ z : Double, type ≠ .date →
      (∀ v' : Json, v'.compareTo? u = v'.toDouble?.bind fun x => x.compare? z) →
        v.compareTo? u = some .lt := fun z hdate hcompare => by
    rw [hcompare] at hv hw ⊢
    obtain ⟨y, hy, hlt⟩ := Option.bind_eq_some_iff.mp hw
    obtain ⟨x, hx⟩ : ∃ x, v.toDouble? = some x :=
      Option.isSome_iff_exists.mp (Option.isSome_of_isSome_bind hv)
    obtain ⟨p, q, hp, hq, hpq⟩ := exists_place_le_of_alike halike hdate hne hle hx hy
    exact hx ▸ Double.compare?_eq_lt_of_place_le hp hq hpq hlt
  cases hu with
  | string | boolean => cases hrange
  | int n => exact hdoubles _ (by decide) fun v' => compareTo?_int v' n
  | @double x finite => exact hdoubles _ (by decide) fun v' => compareTo?_double v' x
  | date z =>
    rw [compareTo?] at hv hw ⊢
    obtain ⟨t, ht, hlt⟩ := Option.map_eq_some_iff.mp hw
    obtain ⟨s, hs⟩ := Option.isSome_iff_exists.mp (Option.isSome_map.symm.trans hv)
    rw [hs, Option.map_some, Instant.compare_eq_lt_of_notAfter
      (notAfter_of_alike halike hne hle hs ht) hlt]

/-- What can be compared with a literal is no object. -/
theorem isObject_of_isSome_compareTo? {u : Literal} (h : (v.compareTo? u).isSome) :
    v.isObject = false := by
  cases v with
  | object members => cases u <;> cases h
  | null | bool b | number n | string s | array items => rfl

end Json

/-! ### Documents -/

/-- A document with one value is sorted by it. -/
theorem SortKey.value?_of_valuesAt {path : String} {direction : Direction} {d : Document} {v : Json}
    (h : Json.valuesAt path d.source = [v]) (hv : v.isObject = false) :
    value? ⟨path, direction⟩ d = some v := by
  rw [value?, Json.fieldValues_eq_valuesAt (by simp [h]), h, List.filter_cons_of_pos (by simp [hv])]
  cases direction <;> rfl

/-- By one key, documents are sorted as the values that they are sorted by. -/
theorem SortKey.order_of_le {path : String} {a b : Document} {v w : Json}
    (hv : value? ⟨path, .ascending⟩ a = some v) (hw : value? ⟨path, .ascending⟩ b = some w)
    (h : le [⟨path, .ascending⟩] a b = true) : (Json.order v w).isLE = true := by
  rwa [le, compareBy_cons, compareLex, compare, hv, hw, compareBy, List.foldr_nil,
    Ordering.then_eq] at h

namespace Scope

variable {s : Scope}

/-- One field to sort by becomes its path, unless it is one of a bridge. -/
theorem sortKeys_one (s : Scope) (name : String) (direction : Direction) :
    s.sortKeys [⟨name, direction⟩] = s.target name >>= fun t =>
      if t.type = some .entity then .error (.invalidRequest (.entitySort name))
      else .ok [⟨t.paths.exact, direction⟩] := by
  rw [sortKeys, if_neg (by simp), Scope.target]
  cases s.root with
  | error e => rfl
  | ok root =>
    rw [ok_bind, List.mapM_cons, List.mapM_nil, sortKey, ok_bind]
    cases s.catalog.target root name with
    | error e => rfl
    | ok t =>
      obtain ⟨paths, type⟩ := t
      rcases type with _ | type
      · rfl
      · cases type <;> rfl

/-- A property whose values can be compared with a bound can be sorted by. -/
theorem sortKeys_of_target {f : SortField} {t : Target} {type : DataType}
    (ht : s.target f.field = .ok t) (htype : t.type = some type) (hrange : type.hasRange = true) :
    s.sortKeys [f] = .ok [⟨t.paths.exact, f.direction⟩] := by
  have hbridge : ¬ t.type = some .entity := by
    rw [htype]
    rintro ⟨⟩
    cases hrange
  rw [sortKeys_one, ht, ok_bind, if_neg hbridge]

end Scope

/-- **Documents that are sorted lie within bounds.** On a property of the type `int`, `double` or
`date`, let every document have one value, which can be compared with all literals of the type. In
ascending order, of two documents whose values are alike, the first one matches every bound from
above that the second one matches. -/
theorem sorted_within_bounds {s : Scope} {name : String} {t : Target} {type : DataType}
    {docs : List Document} (hdepth : 1 ≤ s.maxDepth) (ht : s.target name = .ok t)
    (htype : t.type = some type) (hrange : type.hasRange = true)
    (hdocs : ∀ d ∈ docs, ∃ v, Json.valuesAt t.paths.exact d.source = [v] ∧
      ∀ l u, Literal.coerce? type l = some u → (v.compareTo? u).isSome) :
    ∃ keys, s.sortKeys [⟨name, .ascending⟩] = .ok keys ∧
      (SortKey.sort keys docs).Pairwise fun a b =>
        ∀ v w, Json.valuesAt t.paths.exact a.source = [v] →
          Json.valuesAt t.paths.exact b.source = [w] → Json.Alike type v w →
            ∀ l u, l.coerce? type = some u →
              ∃ p, Predicate.ofCondition s (.one name (.lt l)) = .ok p ∧
                (p.accepts b = true → p.accepts a = true) := by
  refine ⟨_, Scope.sortKeys_of_target ht htype hrange, ?_⟩
  have hsorted := List.pairwise_mergeSort
    (SortKey.le_trans [⟨t.paths.exact, .ascending⟩]) (SortKey.le_total _) docs
  refine hsorted.imp_of_mem fun {a b} ha hb hle v w hv hw halike l u hu => ?_
  have hcompares : Operator.Compares (.lt l) := trivial
  obtain ⟨p, hp, haccepts⟩ := Predicate.exists_ofCondition_of_compares hdepth ht htype hcompares
    (fun _ => hrange) (List.forall_mem_singleton.mpr ⟨u, hu⟩)
  have hpasses : ∀ {d : Document} {v' : Json}, Json.valuesAt t.paths.exact d.source = [v'] →
      (p.accepts d = true ↔ v'.compareTo? u = some .lt) := fun {d v'} hd => by
    rw [haccepts d v' hd, Target.passes,
      Target.operandPasses_of_coerce (Target.coerce_of_type htype hu), Option.any_eq_true]
    simp [Ordering.isLT_iff_eq_lt]
  have hvalue : ∀ {d : Document} {v' : Json}, d ∈ docs →
      Json.valuesAt t.paths.exact d.source = [v'] →
        (v'.compareTo? u).isSome ∧ SortKey.value? ⟨t.paths.exact, .ascending⟩ d = some v' :=
    fun {d v'} hd hv' => by
      obtain ⟨v'', hv'', hcompares⟩ := hdocs d hd
      obtain rfl : v'' = v' := by simpa [hv''] using hv'
      have hcompared := hcompares l u hu
      exact ⟨hcompared,
        SortKey.value?_of_valuesAt hv' (Json.isObject_of_isSome_compareTo? hcompared)⟩
  refine ⟨p, hp, fun hmatches => ?_⟩
  obtain ⟨hcompared, hav⟩ := hvalue ((List.mergeSort_perm _ _).mem_iff.mp ha) hv
  obtain ⟨-, hbw⟩ := hvalue ((List.mergeSort_perm _ _).mem_iff.mp hb) hw
  exact (hpasses hv).mpr (Json.compareTo?_eq_lt_of_alike (Literal.hasType_of_coerce? hu) hrange
    halike (SortKey.order_of_le hav hbw hle) hcompared ((hpasses hw).mp hmatches))

/-- Two documents that may not stand in their order change places. -/
theorem SortKey.sort_pair {keys : List SortKey} {a b : Document} (h : le keys a b = false) :
    sort keys [a, b] = [b, a] := by
  have hle : (compareBy keys a b).isLE = false := h
  simp [sort, List.mergeSort, List.MergeSort.Internal.splitInTwo, hle]

/-- A document that stores its budget as a text. -/
def budgetText (id : Nat) (text : String) : Document :=
  ⟨id, .object [("budget", .string text)]⟩

/-- If the text denotes a number, it can be compared with all whole numbers. -/
theorem budgetText_comparable (id : Nat) {text : String}
    (h : ((Literal.textDouble? text).bind Double.place?).isSome) :
    ∃ v, Json.valuesAt "budget" (budgetText id text).source = [v] ∧
      ∀ l u, Literal.coerce? .int l = some u → (v.compareTo? u).isSome := by
  refine ⟨.string text, rfl, fun l u hu => ?_⟩
  obtain ⟨p, hp⟩ := Option.isSome_iff_exists.mp h
  obtain ⟨x, hx, hplace⟩ := Option.bind_eq_some_iff.mp hp
  cases Literal.hasType_of_coerce? hu with
  | int n =>
    rw [Json.compareTo?_int, Json.toDouble?, hx, Option.bind_some,
      Double.compare?_of_place? hplace (Double.place?_ofInt n)]
    rfl

/-- Budgets of two digits are sorted within bounds. -/
theorem two_digits_within_bounds :
    (∀ d ∈ [budgetText 0 "10", budgetText 1 "09"],
      ∃ v, Json.valuesAt "budget" d.source = [v] ∧
        ∀ l u, Literal.coerce? .int l = some u → (v.compareTo? u).isSome) ∧
      ∃ p, Predicate.ofCondition budgetScope (.one "budget" (.lt (.int 20))) = .ok p ∧
        p.accepts (budgetText 0 "10") = true ∧ p.accepts (budgetText 1 "09") = true := by
  have hdocs : ∀ d ∈ [budgetText 0 "10", budgetText 1 "09"],
      ∃ v, Json.valuesAt "budget" d.source = [v] ∧
        ∀ l u, Literal.coerce? .int l = some u → (v.compareTo? u).isSome := by
    simp only [List.forall_mem_cons]
    exact ⟨budgetText_comparable 0 (by decide +kernel), budgetText_comparable 1 (by decide +kernel),
      nofun⟩
  have htarget : budgetScope.target "budget" = .ok ⟨⟨"budget", "budget"⟩, some .int⟩ := rfl
  obtain ⟨keys, hkeys, hsorted⟩ := sorted_within_bounds (by decide) htarget rfl rfl hdocs
  obtain rfl : [⟨"budget", .ascending⟩] = keys := Except.ok.inj hkeys
  have hsort : SortKey.sort [⟨"budget", .ascending⟩] [budgetText 0 "10", budgetText 1 "09"] =
      [budgetText 1 "09", budgetText 0 "10"] :=
    SortKey.sort_pair (by decide +kernel)
  rw [hsort] at hsorted
  have halike : Json.Alike .int (.string "09") (.string "10") :=
    .texts (by decide +kernel) ⟨by decide +kernel, by decide +kernel, by decide +kernel⟩
  have hbounds := (List.pairwise_cons.mp hsorted).1 _ List.mem_cons_self
  obtain ⟨p, hp, hmatches⟩ := hbounds _ _ rfl rfl halike (.int 20) (.int 20) rfl
  obtain rfl : .range "budget" ⟨none, none, none, some (.int 20)⟩ = p := Except.ok.inj hp
  have hten : Predicate.accepts (.range "budget" ⟨none, none, none, some (.int 20)⟩)
      (budgetText 0 "10") = true := by
    decide +kernel
  exact ⟨hdocs, _, hp, hten, hmatches hten⟩

/-- **Ten is sorted before nine.** Budgets are stored as texts of different lengths. The bound that
keeps out the first document lets in the second. -/
theorem ten_sorted_before_nine :
    (∀ d ∈ [budgetText 0 "9", budgetText 1 "10"],
      ∃ v, Json.valuesAt "budget" d.source = [v] ∧
        ∀ l u, Literal.coerce? .int l = some u → (v.compareTo? u).isSome) ∧
      (∃ keys, budgetScope.sortKeys [⟨"budget", .ascending⟩] = .ok keys ∧
        SortKey.sort keys [budgetText 0 "9", budgetText 1 "10"] =
          [budgetText 1 "10", budgetText 0 "9"]) ∧
      ∃ p, Predicate.ofCondition budgetScope (.one "budget" (.lt (.int 10))) = .ok p ∧
        p.accepts (budgetText 0 "9") = true ∧ p.accepts (budgetText 1 "10") = false := by
  refine ⟨?_, ⟨_, rfl, ?_⟩, .range "budget" ⟨none, none, none, some (.int 10)⟩, rfl,
    by decide +kernel, by decide +kernel⟩
  · simp only [List.forall_mem_cons]
    exact ⟨budgetText_comparable 0 (by decide +kernel), budgetText_comparable 1 (by decide +kernel),
      nofun⟩
  · exact SortKey.sort_pair (by decide +kernel)

end GuardedSearch
