/-!
# Sets of rows

The documents of a list are its rows, numbered from 0. A set of rows is a number whose bit `i` tells
whether row `i` belongs to it.

The numbers of rows have no bound here. A backend that numbers rows with 32 bits has the same sets
for lists of fewer than `RowSet.capacity` documents; in longer lists it would give one number to
several rows. So statements about whole searches ask for shorter lists.

## Main results

* `RowSet.has_ofTest`, `RowSet.has_upTo`, `RowSet.has_inter`, `RowSet.has_union`,
  `RowSet.has_diff`: the rows that belong to a set.
-/

namespace GuardedSearch

/-- A set of rows. -/
structure RowSet where
  bits : Nat
  deriving DecidableEq, Repr

namespace RowSet

/-- How many rows can be told apart by numbers of 32 bits. -/
def capacity : Nat := 0x100000000

/-- Whether a row belongs to the set. -/
def has (s : RowSet) (row : Nat) : Bool :=
  s.bits.testBit row

/-- The empty set. -/
def none : RowSet := ⟨0⟩

/-- The first `n` rows. -/
def upTo (n : Nat) : RowSet := ⟨(1 <<< n) - 1⟩

/-- The rows in both sets. -/
def inter (s t : RowSet) : RowSet := ⟨s.bits &&& t.bits⟩

/-- The rows in either set. -/
def union (s t : RowSet) : RowSet := ⟨s.bits ||| t.bits⟩

/-- The rows in the first set only. -/
def diff (s t : RowSet) : RowSet := ⟨s.bits ^^^ (s.bits &&& t.bits)⟩

/-- The bits of the rows whose items pass a test. -/
def testBits {α : Type} (test : α → Bool) : List α → Nat
  | [] => 0
  | a :: rest => (test a).toNat + 2 * testBits test rest

/-- The rows whose items pass a test. -/
def ofTest {α : Type} (test : α → Bool) (items : List α) : RowSet :=
  ⟨testBits test items⟩

/-- The counts of rows after one more set has been counted: those of its rows go up by one. -/
def countIn (counts : List Nat) (s : RowSet) : List Nat :=
  counts.mapIdx fun row k => if s.has row then k + 1 else k

/-- The rows among the first `n` that belong to at least `least` of the sets, counted with
repetition, one set after the other. -/
def counted (n least : Nat) (sets : List RowSet) : RowSet :=
  ofTest (fun k => least ≤ k) (sets.foldl countIn (List.replicate n 0))

/-- The items whose rows belong to the set. -/
def select {α : Type} (s : RowSet) (items : List α) : List α :=
  (items.zipIdx.filter fun (_, row) => s.has row).map (·.1)

/-! ### Membership -/

@[simp] theorem has_none (row : Nat) : none.has row = false := by
  simp [has, none]

@[simp] theorem has_upTo (n row : Nat) : (upTo n).has row = decide (row < n) := by
  simp [has, upTo, Nat.one_shiftLeft, Nat.testBit_two_pow_sub_one]

@[simp] theorem has_inter (s t : RowSet) (row : Nat) :
    (s.inter t).has row = (s.has row && t.has row) := by
  simp [has, inter, Nat.testBit_and]

@[simp] theorem has_union (s t : RowSet) (row : Nat) :
    (s.union t).has row = (s.has row || t.has row) := by
  simp [has, union, Nat.testBit_or]

@[simp] theorem has_diff (s t : RowSet) (row : Nat) :
    (s.diff t).has row = (s.has row && !t.has row) := by
  simp only [has, diff, Nat.testBit_xor, Nat.testBit_and]
  cases s.bits.testBit row <;> cases t.bits.testBit row <;> rfl

theorem testBit_testBits {α : Type} (test : α → Bool) (items : List α) (row : Nat) :
    (testBits test items).testBit row = items[row]?.any test := by
  induction items generalizing row with
  | nil => simp [testBits]
  | cons a rest ih =>
    cases row with
    | zero => cases h : test a <;> simp [testBits, h, Nat.testBit_zero]
    | succ row =>
      rw [testBits, Nat.testBit_succ]
      have : ((test a).toNat + 2 * testBits test rest) / 2 = testBits test rest := by
        have := Bool.toNat_le (test a)
        omega
      rw [this, ih]
      simp

@[simp] theorem has_ofTest {α : Type} (test : α → Bool) (items : List α) (row : Nat) :
    (ofTest test items).has row = items[row]?.any test :=
  testBit_testBits test items row

/-- Two sets with the same rows are the same set. -/
theorem ext_has {s t : RowSet} (h : ∀ row, s.has row = t.has row) : s = t := by
  obtain ⟨x⟩ := s
  obtain ⟨y⟩ := t
  exact congrArg RowSet.mk (Nat.eq_of_testBit_eq h)

end RowSet

end GuardedSearch
