import GuardedSearch.Proofs.Double.Extremes
import GuardedSearch.Statistics
import Mathlib.Data.List.Basic

/-!
# What statistics describe

The statistics of a distribution are meant to describe its numbers. A bucket is counted if its value
denotes a number and documents have it, and all other buckets are left out.

There is one exception. NaN is no number, but texts such as `"nan"` are read as NaN, and a bucket of
such a text is not left out. The least and the greatest value pass over it; the count, the sum and
the average do not. So if documents have NaN, sum and average are NaN, the count is too large, and
with no number beside NaN the least value is still the infinity that it has been sought from.

## Main definitions

* `Bucket.number?`, `Bucket.isCounted`, `Bucket.isNaN` — buckets with a number, and with NaN
* `Bucket.countOf` — how many documents buckets of a kind count
* `Statistics.Tally.Describes` — what has been seen of a list of buckets

## Main results

* `Statistics.Tally.Describes.see`, `Statistics.Tally.describes_foldl` — one bucket, and all of them
* `statistics_describe_numbers` — what the statistics of a distribution say
-/

namespace GuardedSearch

namespace Double

theorem add_nan (x : Double) : x.add nan = nan := by
  cases x <;> rfl

theorem nan_add (x : Double) : nan.add x = nan :=
  rfl

theorem nan_mul (x : Double) : nan.mul x = nan :=
  rfl

theorem nan_div (x : Double) : nan.div x = nan :=
  rfl

end Double

namespace Bucket

/-! ### Counts of buckets -/

/-- How many documents the buckets of a kind count together. -/
def countOf (p : Bucket → Bool) (bs : List Bucket) : Nat :=
  ((bs.filter p).map count).sum

theorem countOf_concat (p : Bucket → Bool) (bs : List Bucket) (b : Bucket) :
    countOf p (bs ++ [b]) = countOf p bs + if p b then b.count else 0 := by
  rw [countOf, countOf, List.filter_append, List.map_append, List.sum_append]
  cases hb : p b <;> simp [hb]

theorem countOf_eq_zero_iff {p : Bucket → Bool} {bs : List Bucket}
    (hp : ∀ b, p b = true → b.count ≠ 0) : countOf p bs = 0 ↔ ∀ b ∈ bs, p b = false := by
  rw [countOf, List.sum_eq_zero_iff_forall_eq_nat, List.forall_mem_map]
  constructor
  · intro h b hb
    by_contra hpb
    have hpb : p b = true := by simpa using hpb
    exact hp b hpb (h b (List.mem_filter.mpr ⟨hb, hpb⟩))
  · intro h b hb
    obtain ⟨hb, hpb⟩ := List.mem_filter.mp hb
    cases (h b hb).symm.trans hpb

end Bucket

/-! ### Kinds of buckets -/

namespace Statistics

theorem counted?_eq_some_iff {b : Bucket} {x : Double} {n : Nat} :
    counted? b = some (x, n) ↔ b.value.toDouble? = some x ∧ b.count ≠ 0 ∧ b.count = n := by
  rw [counted?]
  cases b.value.toDouble? with
  | none => simp
  | some y => by_cases hcount : b.count = 0 <;> simp [hcount]

theorem counted?_eq_none_iff {b : Bucket} :
    counted? b = .none ↔ b.value.toDouble? = .none ∨ b.count = 0 := by
  rw [counted?]
  cases b.value.toDouble? with
  | none => simp
  | some y => by_cases hcount : b.count = 0 <;> simp [hcount]

end Statistics

namespace Bucket

/-- The number of a bucket that is counted: its value denotes one, and documents have it. -/
def number? (b : Bucket) : Option Double :=
  if b.count = 0 then none else b.value.toDouble?.filter (· ≠ .nan)

/-- Whether the bucket is counted. -/
def isCounted (b : Bucket) : Bool :=
  b.number?.isSome

/-- Whether documents have a value that is read as NaN. -/
def isNaN (b : Bucket) : Bool :=
  b.count ≠ 0 && b.value.toDouble? = some .nan

/-- A bucket has a number, or NaN, or nothing that is looked at. -/
inductive Kind (b : Bucket) : Prop where
  | number (x : Double) (hx : x ≠ .nan) (hcounted : Statistics.counted? b = some (x, b.count))
      (hnumber : b.number? = some x) (hisCounted : b.isCounted = true) (hisNaN : b.isNaN = false)
  | nan (hcounted : Statistics.counted? b = some (.nan, b.count)) (hnumber : b.number? = none)
      (hisCounted : b.isCounted = false) (hisNaN : b.isNaN = true)
  | other (hcounted : Statistics.counted? b = none) (hnumber : b.number? = none)
      (hisCounted : b.isCounted = false) (hisNaN : b.isNaN = false)

theorem kind (b : Bucket) : b.Kind := by
  by_cases hcount : b.count = 0
  · refine .other (Statistics.counted?_eq_none_iff.mpr (.inr hcount)) (if_pos hcount) ?_ ?_
    · simp [isCounted, number?, hcount]
    · simp [isNaN, hcount]
  cases hvalue : b.value.toDouble? with
  | none =>
    refine .other (Statistics.counted?_eq_none_iff.mpr (.inl hvalue)) ?_ ?_ ?_
    · simp [number?, hvalue]
    · simp [isCounted, number?, hvalue]
    · simp [isNaN, hvalue]
  | some x =>
    have hcounted : Statistics.counted? b = some (x, b.count) :=
      Statistics.counted?_eq_some_iff.mpr ⟨hvalue, hcount, rfl⟩
    by_cases hx : x = .nan
    · subst hx
      refine .nan hcounted ?_ ?_ ?_
      · simp [number?, hvalue]
      · simp [isCounted, number?, hvalue]
      · simp [isNaN, hvalue, hcount]
    · refine .number x hx hcounted ?_ ?_ ?_
      · simp [number?, hvalue, hcount, hx, Option.filter]
      · simp [isCounted, number?, hvalue, hcount, hx, Option.filter]
      · simp [isNaN, hvalue, hx]

theorem ne_nan_of_number? {b : Bucket} {x : Double} (h : b.number? = some x) : x ≠ .nan := by
  cases b.kind with
  | number y hy _ hnumber => exact Option.some.inj (h.symm.trans hnumber) ▸ hy
  | nan _ hnumber => cases h.symm.trans hnumber
  | other _ hnumber => cases h.symm.trans hnumber

theorem count_ne_zero {b : Bucket} (h : b.isCounted = true ∨ b.isNaN = true) : b.count ≠ 0 := by
  intro hcount
  simp [isCounted, isNaN, number?, hcount] at h

theorem counted?_eq_none {b : Bucket} (hcounted : b.isCounted = false) (hnan : b.isNaN = false) :
    Statistics.counted? b = none := by
  cases b.kind with
  | number _ _ _ _ hisCounted => cases hcounted.symm.trans hisCounted
  | nan _ _ _ hisNaN => cases hnan.symm.trans hisNaN
  | other hb => exact hb

/-- The numbers of the buckets that are counted. -/
def numbers (bs : List Bucket) : List Double :=
  bs.filterMap number?

theorem numbers_concat (bs : List Bucket) (b : Bucket) :
    numbers (bs ++ [b]) = numbers bs ++ b.number?.toList := by
  rw [numbers, List.filterMap_append, numbers]
  cases hb : b.number? <;> simp [hb]

theorem numbers_eq_nil_iff {bs : List Bucket} :
    numbers bs = [] ↔ ∀ b ∈ bs, b.isCounted = false := by
  rw [numbers, List.filterMap_eq_nil_iff]
  simp only [isCounted, Option.isSome_eq_false_iff, Option.isNone_iff_eq_none]

theorem countOf_isCounted_eq_zero_iff {bs : List Bucket} :
    countOf isCounted bs = 0 ↔ numbers bs = [] := by
  rw [countOf_eq_zero_iff fun _ hb => count_ne_zero (.inl hb), numbers_eq_nil_iff]

theorem countOf_isNaN_eq_zero_iff {bs : List Bucket} :
    countOf isNaN bs = 0 ↔ bs.any isNaN = false := by
  rw [countOf_eq_zero_iff fun _ hb => count_ne_zero (.inr hb), List.any_eq_false]
  simp only [Bool.not_eq_true]

theorem ne_nan_of_mem_numbers {bs : List Bucket} {x : Double} (h : x ∈ numbers bs) : x ≠ .nan := by
  obtain ⟨b, -, hb⟩ := List.mem_filterMap.mp h
  exact ne_nan_of_number? hb

end Bucket

namespace Statistics

namespace Tally

/-! ### Going through the buckets -/

@[simp] theorem min_add (t : Tally) (x : Double) (n : Nat) :
    (t.add (x, n)).min = t.min.least x := rfl

@[simp] theorem max_add (t : Tally) (x : Double) (n : Nat) :
    (t.add (x, n)).max = t.max.greatest x := rfl

@[simp] theorem sum_add (t : Tally) (x : Double) (n : Nat) :
    (t.add (x, n)).sum = t.sum.add (x.mul (.ofInt n)) := rfl

@[simp] theorem count_add (t : Tally) (x : Double) (n : Nat) :
    (t.add (x, n)).count = t.count + n := rfl

/-- What has been seen after one more bucket. -/
def see (t : Tally) (b : Bucket) : Tally :=
  (counted? b).elim t t.add

theorem foldl_counted (bs : List Bucket) (t : Tally) :
    (bs.filterMap counted?).foldl add t = bs.foldl see t := by
  rw [List.foldl_filterMap]
  refine List.foldl_ext _ _ _ fun t b _ => ?_
  rw [see]
  cases counted? b <;> rfl

/-- What has been seen of a list of buckets: the extremes of the numbers in it, and a count and a
sum that NaN takes part in. -/
structure Describes (t : Tally) (bs : List Bucket) : Prop where
  min : t.min = (Bucket.numbers bs).foldl .least (.infinite false)
  max : t.max = (Bucket.numbers bs).foldl .greatest (.infinite true)
  count : t.count = Bucket.countOf Bucket.isCounted bs + Bucket.countOf Bucket.isNaN bs
  sum : bs.any Bucket.isNaN = true → t.sum = .nan

/-- One more bucket. -/
theorem Describes.see {t : Tally} {bs : List Bucket} (h : t.Describes bs) (b : Bucket) :
    (t.see b).Describes (bs ++ [b]) := by
  have hany : (bs ++ [b]).any Bucket.isNaN = true ↔
      bs.any Bucket.isNaN = true ∨ b.isNaN = true := by
    simp only [List.any_append, List.any_cons, List.any_nil, Bool.or_false, Bool.or_eq_true]
  cases b.kind with
  | number x hx hcounted hnumber hisCounted hisNaN =>
    have hsee : t.see b = t.add (x, b.count) := by rw [Tally.see, hcounted, Option.elim_some]
    have hnumbers : Bucket.numbers (bs ++ [b]) = Bucket.numbers bs ++ [x] := by
      rw [Bucket.numbers_concat, hnumber, Option.toList_some]
    constructor
    case min => rw [hsee, min_add, hnumbers, List.foldl_concat, h.min]
    case max => rw [hsee, max_add, hnumbers, List.foldl_concat, h.max]
    case count =>
      rw [hsee, count_add, h.count, Bucket.countOf_concat, Bucket.countOf_concat, hisCounted,
        hisNaN, if_pos rfl, if_neg Bool.false_ne_true]
      omega
    case sum =>
      intro hbs
      have hsum : t.sum = .nan := h.sum ((hany.mp hbs).resolve_right (by simp [hisNaN]))
      rw [hsee, sum_add, hsum, Double.nan_add]
  | nan hcounted hnumber hisCounted hisNaN =>
    have hsee : t.see b = t.add (.nan, b.count) := by rw [Tally.see, hcounted, Option.elim_some]
    have hnumbers : Bucket.numbers (bs ++ [b]) = Bucket.numbers bs := by
      rw [Bucket.numbers_concat, hnumber, Option.toList_none, List.append_nil]
    constructor
    case min => rw [hsee, min_add, hnumbers, Double.least_nan, h.min]
    case max => rw [hsee, max_add, hnumbers, Double.greatest_nan, h.max]
    case count =>
      rw [hsee, count_add, h.count, Bucket.countOf_concat, Bucket.countOf_concat, hisCounted,
        hisNaN, if_pos rfl, if_neg Bool.false_ne_true]
      omega
    case sum =>
      intro _
      rw [hsee, sum_add, Double.nan_mul, Double.add_nan]
  | other hcounted hnumber hisCounted hisNaN =>
    have hsee : t.see b = t := by rw [Tally.see, hcounted, Option.elim_none]
    have hnumbers : Bucket.numbers (bs ++ [b]) = Bucket.numbers bs := by
      rw [Bucket.numbers_concat, hnumber, Option.toList_none, List.append_nil]
    constructor
    case min => rw [hsee, hnumbers, h.min]
    case max => rw [hsee, hnumbers, h.max]
    case count =>
      rw [hsee, h.count, Bucket.countOf_concat, Bucket.countOf_concat, hisCounted, hisNaN]
      rfl
    case sum =>
      intro hbs
      rw [hsee, h.sum ((hany.mp hbs).resolve_right (by simp [hisNaN]))]

/-- All buckets of a list. -/
theorem describes_foldl (bs : List Bucket) : (bs.foldl see start).Describes bs := by
  induction bs using List.reverseRecOn with
  | nil => exact ⟨rfl, rfl, rfl, nofun⟩
  | append_singleton bs b ih =>
    rw [List.foldl_append]
    exact ih.see b

theorem Describes.isExtreme_min {t : Tally} {bs : List Bucket} (h : t.Describes bs) :
    Double.IsExtreme Double.AtMost (.infinite false) t.min (Bucket.numbers bs) :=
  h.min ▸ .foldl Double.selects_least nofun fun _ => Bucket.ne_nan_of_mem_numbers

theorem Describes.isExtreme_max {t : Tally} {bs : List Bucket} (h : t.Describes bs) :
    Double.IsExtreme (fun x y => y.AtMost x) (.infinite true) t.max (Bucket.numbers bs) :=
  h.max ▸ .foldl Double.selects_greatest nofun fun _ => Bucket.ne_nan_of_mem_numbers

/-- Nothing has been counted if and only if there is no number and no NaN. -/
theorem Describes.count_eq_zero_iff {t : Tally} {bs : List Bucket} (h : t.Describes bs) :
    t.count = 0 ↔ Bucket.numbers bs = [] ∧ bs.any Bucket.isNaN = false := by
  rw [h.count, Nat.add_eq_zero_iff, Bucket.countOf_isCounted_eq_zero_iff,
    Bucket.countOf_isNaN_eq_zero_iff]

end Tally

/-! ### Statistics -/

/-- What has been seen of a distribution. -/
def tally (d : Distribution) : Tally :=
  (d.buckets.filterMap counted?).foldl Tally.add Tally.start

theorem describes_tally (d : Distribution) : (tally d).Describes d.buckets := by
  rw [tally, Tally.foldl_counted]
  exact Tally.describes_foldl d.buckets

theorem ofDistribution_of_count_eq_zero {d : Distribution} (h : (tally d).count = 0) :
    ofDistribution d = ⟨.zero, .zero, .zero, (tally d).sum, 0, d.other > 0⟩ :=
  if_pos h

theorem ofDistribution_of_count_ne_zero {d : Distribution} (h : (tally d).count ≠ 0) :
    ofDistribution d = ⟨(tally d).min, (tally d).max,
      (tally d).sum.div (.ofInt (tally d).count), (tally d).sum, (tally d).count, d.other > 0⟩ :=
  if_neg h

/-- Only buckets that are counted, or of NaN, leave a trace. -/
theorem ofDistribution_filter {p : Bucket → Bool} {bs : List Bucket}
    (h : ∀ b ∈ bs, p b = false → b.isCounted = false ∧ b.isNaN = false) (other : Nat) :
    ofDistribution ⟨bs.filter p, other⟩ = ofDistribution ⟨bs, other⟩ := by
  have hcounted : (bs.filter p).filterMap counted? = bs.filterMap counted? := by
    rw [List.filterMap_filter]
    refine List.filterMap_congr fun b hb => ?_
    cases hp : p b with
    | true => rfl
    | false => exact (Bucket.counted?_eq_none (h b hb hp).1 (h b hb hp).2).symm
  rw [ofDistribution, ofDistribution, hcounted]

section

variable {d : Distribution}

theorem forall_isNaN_eq_false (h : d.buckets.any Bucket.isNaN = false) :
    ∀ b ∈ d.buckets, b.isNaN = false := by
  simpa only [List.any_eq_false, Bool.not_eq_true] using h

/-- If neither numbers nor NaN are there, statistics are those of no values. -/
theorem ofDistribution_of_numbers_eq_nil (hnumbers : Bucket.numbers d.buckets = [])
    (hnan : d.buckets.any Bucket.isNaN = false) :
    ofDistribution d = { none with approximate := d.other > 0 } := by
  have hnothing : ∀ b ∈ d.buckets, false = false → b.isCounted = false ∧ b.isNaN = false :=
    fun b hb _ => ⟨Bucket.numbers_eq_nil_iff.mp hnumbers b hb, forall_isNaN_eq_false hnan b hb⟩
  have hempty := ofDistribution_filter (p := fun _ => false) hnothing d.other
  rw [List.filter_false] at hempty
  exact hempty.symm

theorem approximate_ofDistribution (d : Distribution) :
    (ofDistribution d).approximate = true ↔ 0 < d.other := by
  by_cases h : (tally d).count = 0
  · rw [ofDistribution_of_count_eq_zero h]
    exact decide_eq_true_iff
  · rw [ofDistribution_of_count_ne_zero h]
    exact decide_eq_true_iff

theorem count_ofDistribution (d : Distribution) : (ofDistribution d).count =
    Bucket.countOf Bucket.isCounted d.buckets + Bucket.countOf Bucket.isNaN d.buckets := by
  rw [← (describes_tally d).count]
  by_cases h : (tally d).count = 0
  · rw [ofDistribution_of_count_eq_zero h, h]
  · rw [ofDistribution_of_count_ne_zero h]

/-- The least and the greatest number are among the numbers, and all numbers lie between them. -/
theorem extremes_ofDistribution (h : Bucket.numbers d.buckets ≠ []) :
    (ofDistribution d).min ∈ Bucket.numbers d.buckets ∧
      (ofDistribution d).max ∈ Bucket.numbers d.buckets ∧
      ∀ x ∈ Bucket.numbers d.buckets,
        (ofDistribution d).min.AtMost x ∧ x.AtMost (ofDistribution d).max := by
  have hcount : (tally d).count ≠ 0 :=
    fun hcount => h ((describes_tally d).count_eq_zero_iff.mp hcount).1
  have hmin := (describes_tally d).isExtreme_min
  have hmax := (describes_tally d).isExtreme_max
  rw [ofDistribution_of_count_ne_zero hcount]
  exact ⟨hmin.mem_of_ne_nil (fun _ => Double.eq_of_infinite_atMost) h,
    hmax.mem_of_ne_nil (fun _ => Double.eq_of_atMost_infinite) h,
    fun x hx => ⟨hmin.all x hx, hmax.all x hx⟩⟩

/-- NaN is in the sum and in the average, and leaves the infinities alone if there is nothing
else. -/
theorem ofDistribution_of_any_isNaN (h : d.buckets.any Bucket.isNaN = true) :
    (ofDistribution d).sum = .nan ∧ (ofDistribution d).avg = .nan ∧
      (Bucket.numbers d.buckets = [] →
        (ofDistribution d).min = .infinite false ∧ (ofDistribution d).max = .infinite true) := by
  have hcount : (tally d).count ≠ 0 := by
    intro hcount
    cases h.symm.trans ((describes_tally d).count_eq_zero_iff.mp hcount).2
  have hsum : (tally d).sum = .nan := (describes_tally d).sum h
  rw [ofDistribution_of_count_ne_zero hcount, hsum, Double.nan_div]
  refine ⟨rfl, rfl, fun hnumbers => ?_⟩
  rw [(describes_tally d).min, (describes_tally d).max, hnumbers]
  exact ⟨rfl, rfl⟩

end

end Statistics

/-- **Statistics describe the numbers of a distribution, and NaN.** They are approximate if and only
if the distribution leaves something out. If there are numbers, the least and the greatest value are
two of them, and all of them lie between these. If there is no NaN, the count is that of the buckets
with numbers; without numbers all is zero; and no other bucket has any influence. If there is NaN,
its buckets are counted too, sum and average are NaN, and without numbers the least and the greatest
value are infinite. -/
theorem statistics_describe_numbers (d : Distribution) :
    let s := Statistics.ofDistribution d
    let numbers := Bucket.numbers d.buckets
    (s.approximate = true ↔ 0 < d.other) ∧
    (numbers ≠ [] → s.min ∈ numbers ∧ s.max ∈ numbers ∧ s.min.AtMost s.max ∧
      ∀ x ∈ numbers, s.min.AtMost x ∧ x.AtMost s.max) ∧
    (d.buckets.any Bucket.isNaN = false →
      s.count = Bucket.countOf Bucket.isCounted d.buckets ∧
      (numbers = [] → s = { Statistics.none with approximate := d.other > 0 }) ∧
      Statistics.ofDistribution ⟨d.buckets.filter Bucket.isCounted, d.other⟩ = s) ∧
    (d.buckets.any Bucket.isNaN = true →
      s.count = Bucket.countOf Bucket.isCounted d.buckets + Bucket.countOf Bucket.isNaN d.buckets ∧
      Bucket.countOf Bucket.isCounted d.buckets < s.count ∧ s.sum = .nan ∧ s.avg = .nan ∧
      (numbers = [] → s.min = .infinite false ∧ s.max = .infinite true)) ∧
    Statistics.ofDistribution ⟨d.buckets.filter fun b => b.isCounted || b.isNaN, d.other⟩ = s := by
  intro s numbers
  have hcount : s.count =
      Bucket.countOf Bucket.isCounted d.buckets + Bucket.countOf Bucket.isNaN d.buckets :=
    Statistics.count_ofDistribution d
  refine ⟨Statistics.approximate_ofDistribution d, fun hnumbers => ?_, fun hnan => ?_,
    fun hnan => ?_, ?_⟩
  · obtain ⟨hmin, hmax, hall⟩ := Statistics.extremes_ofDistribution hnumbers
    exact ⟨hmin, hmax, (hall _ hmax).1, hall⟩
  · have hzero : Bucket.countOf Bucket.isNaN d.buckets = 0 :=
      Bucket.countOf_isNaN_eq_zero_iff.mpr hnan
    refine ⟨by omega, fun hnumbers => Statistics.ofDistribution_of_numbers_eq_nil hnumbers hnan, ?_⟩
    exact Statistics.ofDistribution_filter
      (fun b hb hcounted => ⟨hcounted, Statistics.forall_isNaN_eq_false hnan b hb⟩) d.other
  · have hpos : Bucket.countOf Bucket.isNaN d.buckets ≠ 0 := by
      rw [ne_eq, Bucket.countOf_isNaN_eq_zero_iff, hnan]
      exact nofun
    exact ⟨hcount, by omega, Statistics.ofDistribution_of_any_isNaN hnan⟩
  · exact Statistics.ofDistribution_filter (fun b hb hp => Bool.or_eq_false_iff.mp hp) d.other

/-- Of the texts `"5"` and `"x"`, the number -1 and a number that no document has, the first and the
third are described. -/
theorem statistics_describe_two_numbers :
    let d : Distribution := ⟨[⟨.string "5", 2⟩, ⟨.string "x", 3⟩, ⟨.int (-1), 1⟩, ⟨.int 9, 0⟩], 4⟩
    let s := Statistics.ofDistribution d
    s.count = 3 ∧ s.min = .ofInt (-1) ∧ s.max = .ofInt 5 ∧ s.approximate = true := by
  intro d s
  have hnumbers : Bucket.numbers d.buckets = [.ofInt 5, .ofInt (-1)] := by decide +kernel
  obtain ⟨happroximate, hextremes, hcount, -, -⟩ := statistics_describe_numbers d
  obtain ⟨hmin, hmax, -, hall⟩ := hextremes (by rw [hnumbers]; exact List.cons_ne_nil _ _)
  rw [hnumbers] at hmin hmax hall
  have hfirst := hall (.ofInt 5) List.mem_cons_self
  have hthird := hall (.ofInt (-1)) (List.mem_cons_of_mem _ List.mem_cons_self)
  refine ⟨(hcount (by decide +kernel)).1.trans (by decide +kernel), ?_, ?_,
    happroximate.mpr (by decide)⟩
  · rcases List.mem_pair.mp hmin with h | h
    · rw [h] at hthird
      exact absurd hthird.1 (by decide +kernel)
    · exact h
  · rcases List.mem_pair.mp hmax with h | h
    · exact h
    · rw [h] at hfirst
      exact absurd hfirst.2 (by decide +kernel)

/-- Two documents with the text `"nan"` have no number, and yet they are counted, with infinities
for the least and the greatest value. -/
theorem nan_text_counted :
    let d : Distribution := ⟨[⟨.string "nan", 2⟩], 0⟩
    Bucket.numbers d.buckets = [] ∧ Statistics.ofDistribution d ≠ Statistics.none ∧
      Statistics.ofDistribution d = ⟨.infinite false, .infinite true, .nan, .nan, 2, false⟩ := by
  decide +kernel

end GuardedSearch
