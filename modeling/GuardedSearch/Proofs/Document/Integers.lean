import GuardedSearch.Proofs.Document.OneValue
import GuardedSearch.Proofs.Double.Places

/-!
# Whole numbers in documents

A whole number in a document is compared with one in a filter as a double, on both sides. Most whole
numbers of 64 bits are no doubles, so two different ones may come out equal: the identifiers
`2 ^ 53` and `2 ^ 53 + 1` do. What is left is that no order is ever turned round, and that a number
of less than 53 bits is told from all others. Both hold of whole numbers of any size.

## Main results

* `Json.compareTo?_whole_int` — the comparison is that of the places that rounding leads to
* `whole_numbers_compared_as_doubles` — what the operators on whole numbers find
* `eq_finds_next_identifier` — a number is found that is not the one asked for
-/

namespace GuardedSearch

open Double (intPlace)

namespace Json

theorem compareTo?_whole_int (n m : Int) :
    (number (.whole n)).compareTo? (.int m) = some (compare (intPlace n) (intPlace m)) := by
  rw [compareTo?, Literal.toDouble?, Option.bind_some, Number.toDouble, Double.compare?_ofInt]
  exact nofun

theorem equals_whole_int (n m : Int) :
    (number (.whole n)).equals (.int m) = true ↔ Double.ofInt n = Double.ofInt m := by
  rw [equals, compareTo?_whole_int, Double.ofInt_eq_iff, beq_iff_eq, Option.some_inj,
    compare_eq_iff_eq]

end Json

namespace Double

/-- Where rounding tells two whole numbers apart, it leaves them in their order. -/
theorem lt_of_intPlace_lt {m n : Int} (h : intPlace m < intPlace n) : m < n := by
  by_contra hle
  exact absurd (intPlace_mono (Int.not_lt.mp hle)) (Int.not_le.mpr h)

theorem compare_intPlace {m n : Int} (hsmall : m.natAbs < 2 ^ 53 ∨ n.natAbs < 2 ^ 53) :
    compare (intPlace m) (intPlace n) = compare m n := by
  rcases Int.lt_trichotomy m n with hlt | rfl | hgt
  · rw [compare_lt_iff_lt.mpr hlt, compare_lt_iff_lt.mpr (intPlace_lt hlt hsmall)]
  · rw [compare_eq_iff_eq.mpr rfl, compare_eq_iff_eq.mpr rfl]
  · rw [compare_gt_iff_gt.mpr hgt, compare_gt_iff_gt.mpr (intPlace_lt hgt hsmall.symm)]

end Double

/-! ### Operators -/

/-- **Whole numbers are compared as doubles.** On a property of the type `int`, every operator that
compares accepts whole numbers. A document that stores the whole number `n` is found by `m` as `n`
lies to `m` after both have been rounded to doubles: no order is turned round, and the two are equal
exactly if they are rounded to the same double. If one of them has less than 53 bits, that is as
they lie to each other. -/
theorem whole_numbers_compared_as_doubles {s : Scope} {name : String} {t : Target}
    (hdepth : 1 ≤ s.maxDepth) (ht : s.target name = .ok t) (htype : t.type = some .int) :
    ∃ cmp : Int → Int → Ordering,
      (∀ n m, (Json.number (.whole n)).compareTo? (.int m) = some (cmp n m)) ∧
      (∀ n m, (cmp n m = .eq ↔ Double.ofInt n = Double.ofInt m) ∧
        (cmp n m = .lt → n < m) ∧ (cmp n m = .gt → m < n)) ∧
      (∀ n m, n.natAbs < 2 ^ 53 ∨ m.natAbs < 2 ^ 53 → cmp n m = compare n m) ∧
      ∀ (d : Document) (n : Int), Json.valuesAt t.paths.exact d.source = [.number (.whole n)] →
        (∀ m, ∃ p, Predicate.ofCondition s (.one name (.eq (.int m))) = .ok p ∧
          (p.accepts d = true ↔ cmp n m = .eq)) ∧
        (∀ ms, ms ≠ [] → ∃ p,
          Predicate.ofCondition s (.one name (.oneOf (ms.map .int))) = .ok p ∧
            (p.accepts d = true ↔ ∃ m ∈ ms, cmp n m = .eq)) ∧
        ∀ (k : Bounds.Kind) m, ∃ p,
          Predicate.ofCondition s (.one name (k.operator (.int m))) = .ok p ∧
            (p.accepts d = true ↔ k.admits (cmp n m) = true) := by
  have hint : ∀ m, Literal.coerce? .int (.int m) = some (.int m) := fun m => rfl
  have hcoerce : ∀ m, t.coerce name (.int m) = .ok (.int m) :=
    fun m => Target.coerce_of_type htype (hint m)
  have hcompile : ∀ op : Operator, op.Compares → (∀ l ∈ op.operands, ∃ m, l = .int m) →
      ∃ p, Predicate.ofCondition s (.one name op) = .ok p ∧
        ∀ d v, Json.valuesAt t.paths.exact d.source = [v] →
          (p.accepts d = true ↔ t.passes name v op = true) := fun op hop hints =>
    Predicate.exists_ofCondition_of_compares hdepth ht htype hop (fun _ => rfl) fun l hl => by
      obtain ⟨m, rfl⟩ := hints l hl
      exact ⟨_, hint m⟩
  refine ⟨fun n m => compare (intPlace n) (intPlace m), Json.compareTo?_whole_int, fun n m => ?_,
    fun n m => Double.compare_intPlace, fun d n hd => ⟨fun m => ?_, fun ms hms => ?_,
    fun k m => ?_⟩⟩
  · exact ⟨compare_eq_iff_eq.trans Double.ofInt_eq_iff.symm,
      fun h => Double.lt_of_intPlace_lt (compare_lt_iff_lt.mp h),
      fun h => Double.lt_of_intPlace_lt (compare_gt_iff_gt.mp h)⟩
  · obtain ⟨p, hp, haccepts⟩ := hcompile (.eq (.int m)) trivial (by simp [Operator.operands])
    refine ⟨p, hp, ?_⟩
    rw [haccepts d _ hd, Target.passes, Target.operandPasses_of_coerce (hcoerce m),
      Json.equals_whole_int, compare_eq_iff_eq, Double.ofInt_eq_iff]
  · obtain ⟨p, hp, haccepts⟩ := hcompile (.oneOf (ms.map .int)) (by simpa [Operator.Compares])
      (by simp [Operator.operands])
    refine ⟨p, hp, ?_⟩
    rw [haccepts d _ hd, Target.passes, List.any_map, List.any_eq_true]
    simp only [Function.comp_apply, Target.operandPasses_of_coerce (hcoerce _),
      Json.equals_whole_int, compare_eq_iff_eq, Double.ofInt_eq_iff]
  · obtain ⟨p, hp, haccepts⟩ := hcompile (k.operator (.int m)) (Operator.compares_operator k _)
      (by simp [Operator.operands_operator])
    refine ⟨p, hp, ?_⟩
    rw [haccepts d _ hd, Target.passes_operator, Target.operandPasses_of_coerce (hcoerce m),
      Json.compareTo?_whole_int, Option.any_some]

/-- A budget that has been rounded down to a bound does not lie above it. -/
theorem next_identifier_not_above :
    (1 ≤ budgetScope.maxDepth ∧
        budgetScope.target "budget" = .ok ⟨⟨"budget", "budget"⟩, some .int⟩) ∧
      ∃ p, Predicate.ofCondition budgetScope (.one "budget" (.gt (.int 9007199254740992))) = .ok p ∧
        p.accepts ⟨0, .object [("budget", .number (.whole 9007199254740993))]⟩ = false := by
  have htarget : budgetScope.target "budget" = .ok ⟨⟨"budget", "budget"⟩, some .int⟩ := rfl
  obtain ⟨cmp, -, hcmp, -, hops⟩ := whole_numbers_compared_as_doubles (by decide) htarget rfl
  obtain ⟨-, -, hbound⟩ := hops
    ⟨0, .object [("budget", .number (.whole 9007199254740993))]⟩ 9007199254740993 rfl
  obtain ⟨p, hp, haccepts⟩ := hbound .gt 9007199254740992
  have heq : cmp 9007199254740993 9007199254740992 = .eq :=
    (hcmp _ _).1.mpr (by decide +kernel)
  refine ⟨⟨by decide, htarget⟩, p, hp, ?_⟩
  rw [← Bool.not_eq_true, haccepts, heq]
  decide

/-- **A number is found that is not the one asked for.** The budget asked for is `2 ^ 53`, and the
one found is the next. -/
theorem eq_finds_next_identifier :
    ∃ p, Predicate.ofCondition budgetScope (.one "budget" (.eq (.int 9007199254740992))) = .ok p ∧
      p.accepts ⟨0, .object [("budget", .number (.whole 9007199254740993))]⟩ = true :=
  ⟨.term "budget" (.int 9007199254740992), rfl, by decide +kernel⟩

end GuardedSearch
