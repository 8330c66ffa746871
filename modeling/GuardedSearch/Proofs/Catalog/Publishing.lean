import GuardedSearch.Catalog.Store
import Mathlib.Data.List.Nodup
import Mathlib.Logic.Relation

/-!
# Publishing at the same time

A call of `publish` accesses the store twice: it reads the generation in force, and then it puts its
catalog into force as the next one. Each access is atomic, but both together are not, and between
them other calls may access the store.

A call is overtaken if it finds on its second access that the generation is no longer the one it has
read. Nothing is checked then. The generation that the call returns has been returned before, and
the store may fall back behind a generation that readers have already seen. That no call is
overtaken is therefore not only sufficient for generations to be unique, but necessary.

## Main definitions

* `Publishing`, `Publishing.Step`, `Publishing.Run` — a store with any number of calls on it
* `Publishing.RunInTurn` — the runs in which one call at a time is under way

## Main results

* `Publishing.run_publish` — a call whose accesses follow each other is a publication
* `Publishing.unique_iff_not_overtaken` — when the generations are unique, and count publications
* `Publishing.overtaken_publication` — two calls that overlap with a third
* `Publishing.overtaken_eq_zero_of_runInTurn` — no call is overtaken if they take turns
-/

namespace GuardedSearch

/-- A store, and what the calls of `publish` on it have come to. -/
structure Publishing where
  store : CatalogStore
  /-- The generations of the catalogs that are still to be put into force, for each call that has
  made its first access and not its second. -/
  underWay : List Nat
  /-- The generations that were returned, the last one first. -/
  returned : List Nat
  /-- How many calls have been overtaken. -/
  overtaken : Nat

namespace Publishing

/-- The store before the first call. -/
def start (store : CatalogStore) : Publishing :=
  ⟨store, [], [], 0⟩

/-- One access to the store, by a call that begins or by any of those under way. -/
inductive Step : Publishing → Publishing → Prop
  | read (p : Publishing) : Step p { p with underWay := p.store.nextGeneration :: p.underWay }
  | write (p : Publishing) (c : Catalog) (g : Nat) (underWay : g ∈ p.underWay) :
      Step p ⟨p.store.put c g, p.underWay.erase g, g :: p.returned,
        if g = p.store.nextGeneration then p.overtaken else p.overtaken + 1⟩

/-- Any number of accesses, in any order. -/
abbrev Run : Publishing → Publishing → Prop :=
  Relation.ReflTransGen Step

/-- A call whose two accesses follow each other is a publication, and is not overtaken. -/
theorem run_publish (p : Publishing) (c : Catalog) :
    Run p { p with
      store := p.store.publish c
      returned := p.store.nextGeneration :: p.returned } := by
  have h := Step.write { p with underWay := p.store.nextGeneration :: p.underWay } c
    p.store.nextGeneration List.mem_cons_self
  rw [List.erase_cons_head, if_pos rfl] at h
  exact .tail (.single (.read p)) h

/-! ### The invariant -/

/-- What holds as long as no call is overtaken: the generations that were returned are the ones
after the first, without gaps and in their order, and the last of them is in force. -/
structure InOrder (first : Nat) (p : Publishing) : Prop where
  generation : p.store.generation = first + p.returned.length
  returned : p.returned = (List.range' (first + 1) p.returned.length).reverse

/-- What holds once a call has been overtaken: there have been more publications than generations.
From then on that is also seen by every call under way. -/
structure OutOfOrder (first : Nat) (p : Publishing) : Prop where
  generation : p.store.generation < first + p.returned.length
  underWay : ∀ g ∈ p.underWay, g ≤ first + p.returned.length
  returned : ¬ p.returned.Nodup

/-- What holds after every access, where `first` is the generation before the first call. -/
structure Invariant (first : Nat) (p : Publishing) : Prop where
  first_le : first ≤ p.store.generation
  underWay : ∀ g ∈ p.underWay, first < g ∧ g ≤ first + p.returned.length + 1
  inOrder : p.overtaken = 0 → p.InOrder first
  outOfOrder : p.overtaken ≠ 0 → p.OutOfOrder first

variable {first : Nat} {p q : Publishing}

theorem invariant_start (store : CatalogStore) : (start store).Invariant store.generation where
  first_le := Nat.le_refl _
  underWay := List.forall_mem_nil _
  inOrder := fun _ => ⟨rfl, rfl⟩
  outOfOrder := absurd rfl

theorem InOrder.mem_returned_iff (h : p.InOrder first) {g : Nat} :
    g ∈ p.returned ↔ first < g ∧ g ≤ p.store.generation := by
  rw [h.generation, h.returned, List.mem_reverse, List.mem_range'_1, List.length_reverse,
    List.length_range']
  omega

theorem InOrder.nodup (h : p.InOrder first) : p.returned.Nodup := by
  rw [h.returned]
  exact List.nodup_reverse.mpr List.nodup_range'

theorem Invariant.read (h : p.Invariant first) :
    Invariant first { p with underWay := p.store.nextGeneration :: p.underWay } where
  first_le := h.first_le
  underWay := by
    refine List.forall_mem_cons.mpr ⟨⟨Nat.lt_succ_of_le h.first_le, Nat.succ_le_succ ?_⟩,
      h.underWay⟩
    by_cases hzero : p.overtaken = 0
    · exact Nat.le_of_eq (h.inOrder hzero).generation
    · exact Nat.le_of_lt (h.outOfOrder hzero).generation
  inOrder := fun hzero => ⟨(h.inOrder hzero).generation, (h.inOrder hzero).returned⟩
  outOfOrder := fun hpositive =>
    have hout := h.outOfOrder hpositive
    ⟨hout.generation, List.forall_mem_cons.mpr ⟨hout.generation, hout.underWay⟩, hout.returned⟩

/-- A call that is not overtaken continues the order. -/
theorem InOrder.write (h : p.InOrder first) (c : Catalog) (underWay : List Nat) (overtaken : Nat) :
    InOrder first ⟨p.store.put c p.store.nextGeneration, underWay,
      p.store.nextGeneration :: p.returned, overtaken⟩ where
  generation := congrArg Nat.succ h.generation
  returned := by
    rw [List.length_cons, List.range'_1_concat, List.reverse_append, List.reverse_singleton,
      ← h.returned, CatalogStore.nextGeneration, h.generation, List.singleton_append,
      Nat.add_right_comm]

/-- The first call that is overtaken returns a generation that was returned before. -/
theorem mem_returned_of_overtaken (h : p.Invariant first) (hzero : p.overtaken = 0) {g : Nat}
    (hg : g ∈ p.underWay) (hlate : g ≠ p.store.nextGeneration) : g ∈ p.returned := by
  obtain ⟨hfirst, hle⟩ := h.underWay g hg
  have horder := h.inOrder hzero
  have hgeneration : g ≤ p.store.generation := by
    rw [CatalogStore.nextGeneration, horder.generation] at hlate
    rw [horder.generation]
    omega
  exact horder.mem_returned_iff.mpr ⟨hfirst, hgeneration⟩

theorem Invariant.write (h : p.Invariant first) (c : Catalog) {g : Nat} (hg : g ∈ p.underWay) :
    Invariant first ⟨p.store.put c g, p.underWay.erase g, g :: p.returned,
      if g = p.store.nextGeneration then p.overtaken else p.overtaken + 1⟩ where
  first_le := Nat.le_of_lt (h.underWay g hg).1
  underWay := fun g' hg' =>
    have hbounds := h.underWay g' (List.mem_of_mem_erase hg')
    ⟨hbounds.1, Nat.le_succ_of_le hbounds.2⟩
  inOrder := by
    intro hzero
    by_cases hlate : g = p.store.nextGeneration
    · subst hlate
      exact (h.inOrder (by simpa using hzero)).write c _ _
    · simp [hlate] at hzero
  outOfOrder := by
    intro hpositive
    have hbounds : ∀ g' ∈ p.underWay.erase g, g' ≤ first + (g :: p.returned).length :=
      fun g' hg' => (h.underWay g' (List.mem_of_mem_erase hg')).2
    -- Either this call is the first to be overtaken, or the order was lost before.
    by_cases hzero : p.overtaken = 0
    · have hlate : g ≠ p.store.nextGeneration := fun hg => hpositive (by simpa [hg] using hzero)
      have hmem := mem_returned_of_overtaken h hzero hg hlate
      have horder := h.inOrder hzero
      refine ⟨Nat.lt_succ_of_le ?_, hbounds, fun hnodup => (List.nodup_cons.mp hnodup).1 hmem⟩
      exact Nat.le_trans (horder.mem_returned_iff.mp hmem).2 (Nat.le_of_eq horder.generation)
    · have hout := h.outOfOrder hzero
      refine ⟨Nat.lt_succ_of_le (hout.underWay g hg), hbounds, fun hnodup => ?_⟩
      exact hout.returned (List.nodup_cons.mp hnodup).2

theorem Invariant.step (h : p.Invariant first) (hstep : Step p q) : q.Invariant first := by
  cases hstep with
  | read => exact h.read
  | write c g hg => exact h.write c hg

theorem Invariant.run (h : p.Invariant first) (hrun : Run p q) : q.Invariant first := by
  induction hrun with
  | refl => exact h
  | tail _ hstep ih => exact ih.step hstep

/-! ### Calls that are overtaken -/

/-- A call that was overtaken is never forgotten, and the publications are counted on. -/
theorem run_le (h : Run p q) :
    p.overtaken ≤ q.overtaken ∧ p.returned.length ≤ q.returned.length := by
  induction h with
  | refl => exact ⟨Nat.le_refl _, Nat.le_refl _⟩
  | tail _ hstep ih =>
    cases hstep with
    | read => exact ih
    | write c g hg =>
      refine ⟨Nat.le_trans ih.1 ?_, Nat.le_succ_of_le ih.2⟩
      dsimp only
      split
      · exact Nat.le_refl _
      · exact Nat.le_succ _

/-- **When generations are unique.** After any accesses of any number of calls, the generations that
were returned are distinct exactly if no call has been overtaken, and exactly then the generation in
force counts the publications. As long as that is so, the generation in force has never fallen. -/
theorem unique_iff_not_overtaken {store : CatalogStore} (h : Run (start store) p) :
    (p.returned.Nodup ↔ p.overtaken = 0) ∧
      (p.store.generation = store.generation + p.returned.length ↔ p.overtaken = 0) ∧
      (p.overtaken = 0 → ∀ q, Run (start store) q → Run q p →
        q.store.generation ≤ p.store.generation) := by
  have hinvariant := (invariant_start store).run h
  refine ⟨⟨fun hnodup => ?_, fun hzero => (hinvariant.inOrder hzero).nodup⟩,
    ⟨fun hcounts => ?_, fun hzero => (hinvariant.inOrder hzero).generation⟩, ?_⟩
  · by_contra hpositive
    exact (hinvariant.outOfOrder hpositive).returned hnodup
  · by_contra hpositive
    exact Nat.ne_of_lt (hinvariant.outOfOrder hpositive).generation hcounts
  · intro hzero q hq hrun
    obtain ⟨hovertaken, hlength⟩ := run_le hrun
    have hq := (invariant_start store).run hq
    have hzero' : q.overtaken = 0 := Nat.le_zero.mp (hzero ▸ hovertaken)
    rw [(hinvariant.inOrder hzero).generation, (hq.inOrder hzero').generation]
    exact Nat.add_le_add_left hlength _

/-- Two calls that both read before either writes return the same generation. -/
theorem returned_of_overlapping :
    let p : Publishing := ⟨⟨Catalog.empty.withGeneration 2⟩, [], [2, 2], 1⟩
    Run (start .empty) p ∧ ¬ p.returned.Nodup ∧
      p.store.generation ≠ CatalogStore.empty.generation + p.returned.length := by
  intro p
  have hrun : Run (start .empty) p :=
    (((Relation.ReflTransGen.refl.tail (.read _)).tail (.read _)).tail
      (.write _ .empty 2 (by decide))).tail (.write _ .empty 2 (by decide))
  have hovertaken : p.overtaken ≠ 0 := Nat.one_ne_zero
  obtain ⟨hnodup, hcounts, -⟩ := unique_iff_not_overtaken hrun
  exact ⟨hrun, mt hnodup.mp hovertaken, mt hcounts.mp hovertaken⟩

/-- **A generation that is returned twice, and falls.** Two calls read the first generation. One of
them and a third call publish, and readers see the third generation. Then the other one publishes,
and the second generation is in force again. -/
theorem overtaken_publication :
    ∃ p q : Publishing, Run (start .empty) p ∧ Run p q ∧
      ¬ q.returned.Nodup ∧ q.store.generation < p.store.generation := by
  let p : Publishing := ⟨⟨Catalog.empty.withGeneration 3⟩, [2], [3, 2], 0⟩
  let q : Publishing := ⟨⟨Catalog.empty.withGeneration 2⟩, [], [2, 3, 2], 1⟩
  have hp : Run (start .empty) p :=
    ((((Relation.ReflTransGen.refl.tail (.read _)).tail (.read _)).tail
      (.write _ .empty 2 (by decide))).tail (.read _)).tail (.write _ .empty 3 (by decide))
  have hq : Run p q := .single (.write _ .empty 2 (List.mem_singleton_self 2))
  exact ⟨p, q, hp, hq, by decide, by decide⟩

/-! ### Calls in turn -/

/-- Accesses of calls of which at most one is under way at any time. -/
abbrev RunInTurn : Publishing → Publishing → Prop :=
  Relation.ReflTransGen fun p q => Step p q ∧ q.underWay.length ≤ 1

/-- **It suffices that calls take turns.** -/
theorem overtaken_eq_zero_of_runInTurn {store : CatalogStore} (h : RunInTurn (start store) p) :
    p.overtaken = 0 := by
  have hinTime : p.overtaken = 0 ∧ (p.underWay = [] ∨ p.underWay = [p.store.nextGeneration]) := by
    induction h with
    | refl => exact ⟨rfl, .inl rfl⟩
    | tail _ hstep ih =>
      obtain ⟨hzero, hunderWay⟩ := ih
      obtain ⟨hstep, hlength⟩ := hstep
      cases hstep with
      | read =>
        rcases hunderWay with hnil | hone
        · exact ⟨hzero, .inr (congrArg _ hnil)⟩
        · simp [hone] at hlength
      | write c g hg =>
        rcases hunderWay with hnil | hone
        · simp [hnil] at hg
        · rw [hone, List.mem_singleton] at hg
          subst hg
          exact ⟨by simpa using hzero, .inl (by simp [hone])⟩
  exact hinTime.1

end Publishing

end GuardedSearch
