import GuardedSearch.Text.Blank
import GuardedSearch.Text.Numeral
import Mathlib.Data.List.Forall2
import Mathlib.Data.List.TakeWhile
import Mathlib.Tactic.Linarith

/-!
# Texts of one shape

Texts are ordered by their first different characters, and numbers by their first different digits
if they have the same number of digits. So the order of two texts tells the order of the numbers in
them, provided that the texts are the same but for their digits: then number stands under number,
and the first numbers that differ decide both.

Reading such texts goes hand in hand. A reader that tells characters apart by kind only, digits
being of one kind, takes the same part of either. `Text.InStep` says that what it takes decides the
order of the texts unless it is the same, and that what remains decides it then.

## Main definitions

* `Text.SameShape` — the texts are the same but for their digits
* `Text.InStep` — what has been read of two texts decides their order, or what remains does

## Main results

* `Text.append_lt_append_iff`, `Text.lt_iff_ofDigits_lt` — the order of texts, piece by piece and
  number by number
* `Text.SameShape.inStep_take`, `Text.SameShape.trimChars` — reading digits, and passing over the
  white space around texts
-/

namespace GuardedSearch.Text

/-! ### The order of texts -/

/-- Texts are ordered by their first parts, and if these are the same, by the others. -/
theorem append_lt_append_iff {xs ys cs ds : List Char} (h : xs.length = ys.length) :
    xs ++ cs < ys ++ ds ↔ xs < ys ∨ xs = ys ∧ cs < ds := by
  induction xs generalizing ys with
  | nil =>
    obtain rfl := List.length_eq_zero_iff.mp h.symm
    simp
  | cons x xs ih =>
    cases ys with
    | nil => cases h
    | cons y ys =>
      simp only [List.cons_append, List.cons_lt_cons_iff, ih (Nat.succ.inj h), List.cons.injEq]
      tauto

theorem ofDigits_cons (c : Char) (cs : List Char) :
    ofDigits (c :: cs) = digitValue c * 10 ^ cs.length + ofDigits cs := by
  have hcons : ofDigits (c :: cs) = Nat.ofDigitChars 10 cs (10 * 0 + digitValue c) :=
    Nat.ofDigitChars_cons
  rw [hcons, Nat.ofDigitChars_eq_ofDigitChars_zero, Nat.mul_zero, Nat.zero_add, Nat.mul_comm]
  rfl

theorem isDigit_iff {c : Char} : c.isDigit = true ↔ 48 ≤ c.toNat ∧ c.toNat ≤ 57 := by
  simp only [Char.isDigit, Bool.and_eq_true, decide_eq_true_eq]
  exact and_congr UInt32.le_iff_toNat_le UInt32.le_iff_toNat_le

theorem isBlank_of_isDigit {c : Char} (h : c.isDigit = true) : isBlank c = false := by
  have hle := isDigit_iff.mp h
  simp [isBlank, inRanges, blankRanges]
  omega

theorem digitValue_lt {c : Char} (h : c.isDigit = true) : digitValue c < 10 := by
  have hle := (isDigit_iff.mp h).2
  change c.toNat - 48 < 10
  omega

theorem ofDigits_lt {cs : List Char} (h : ∀ c ∈ cs, c.isDigit = true) :
    ofDigits cs < 10 ^ cs.length := by
  induction cs with
  | nil => decide
  | cons c cs ih =>
    obtain ⟨hc, hcs⟩ := List.forall_mem_cons.mp h
    have hlt := ih hcs
    have hmul : digitValue c * 10 ^ cs.length ≤ 9 * 10 ^ cs.length :=
      Nat.mul_le_mul_right _ (Nat.le_of_lt_succ (digitValue_lt hc))
    rw [ofDigits_cons, List.length_cons, Nat.pow_succ]
    omega

/-- Digits are ordered as their values are. -/
theorem lt_iff_digitValue_lt {c d : Char} (hc : c.isDigit = true) (hd : d.isDigit = true) :
    (c < d ↔ digitValue c < digitValue d) ∧ (c = d ↔ digitValue c = digitValue d) := by
  have hcle := (isDigit_iff.mp hc).1
  have hdle := (isDigit_iff.mp hd).1
  have hlt : c < d ↔ c.toNat < d.toNat := UInt32.lt_iff_toNat_lt
  have heq : c = d ↔ c.toNat = d.toNat := Char.toNat_inj.symm
  change (c < d ↔ c.toNat - 48 < d.toNat - 48) ∧ (c = d ↔ c.toNat - 48 = d.toNat - 48)
  rw [hlt, heq]
  omega

/-- **As many digits are ordered as the numbers that they write.** -/
theorem lt_iff_ofDigits_lt {xs ys : List Char} (hlength : xs.length = ys.length)
    (hx : ∀ c ∈ xs, c.isDigit = true) (hy : ∀ c ∈ ys, c.isDigit = true) :
    (xs < ys ↔ ofDigits xs < ofDigits ys) ∧ (xs = ys ↔ ofDigits xs = ofDigits ys) := by
  induction xs generalizing ys with
  | nil =>
    obtain rfl := List.length_eq_zero_iff.mp hlength.symm
    simp
  | cons x xs ih =>
    cases ys with
    | nil => cases hlength
    | cons y ys =>
      obtain ⟨hx, hxs⟩ := List.forall_mem_cons.mp hx
      obtain ⟨hy, hys⟩ := List.forall_mem_cons.mp hy
      obtain ⟨hlt, heq⟩ := ih (Nat.succ.inj hlength) hxs hys
      obtain ⟨hdigitlt, hdigiteq⟩ := lt_iff_digitValue_lt hx hy
      have hxbound := ofDigits_lt hxs
      have hybound := ofDigits_lt hys
      rw [← Nat.succ.inj hlength] at hybound
      rw [List.cons_lt_cons_iff, List.cons.injEq, hlt, heq, hdigitlt, hdigiteq, ofDigits_cons,
        ofDigits_cons, ← Nat.succ.inj hlength]
      generalize 10 ^ xs.length = p at hxbound hybound
      rcases Nat.lt_trichotomy (digitValue x) (digitValue y) with h | h | h
      · have hmul := Nat.mul_le_mul_right p (Nat.succ_le_of_lt h)
        rw [Nat.succ_mul] at hmul
        omega
      · rw [h]
        omega
      · have hmul := Nat.mul_le_mul_right p (Nat.succ_le_of_lt h)
        rw [Nat.succ_mul] at hmul
        omega

/-! ### One shape -/

/-- The texts are the same but for their digits. -/
def SameShape (cs ds : List Char) : Prop :=
  List.Forall₂ (fun c d => c = d ∨ c.isDigit = true ∧ d.isDigit = true) cs ds

instance (cs ds : List Char) : Decidable (SameShape cs ds) :=
  inferInstanceAs (Decidable (List.Forall₂ _ cs ds))

namespace SameShape

variable {cs ds : List Char}

theorem length_eq (h : SameShape cs ds) : cs.length = ds.length :=
  List.Forall₂.length_eq h

theorem symm (h : SameShape cs ds) : SameShape ds cs :=
  h.flip.imp fun _ _ hcd => hcd.imp Eq.symm And.symm

theorem take (h : SameShape cs ds) (n : ℕ) : SameShape (cs.take n) (ds.take n) :=
  List.forall₂_take n h

theorem drop (h : SameShape cs ds) (n : ℕ) : SameShape (cs.drop n) (ds.drop n) :=
  List.forall₂_drop n h

theorem reverse (h : SameShape cs ds) : SameShape cs.reverse ds.reverse :=
  List.forall₂_reverse_iff.mpr h

/-- Where one of the texts has only digits, the other one does. -/
theorem all_isDigit (h : SameShape cs ds) : cs.all Char.isDigit = ds.all Char.isDigit := by
  induction h with
  | nil => rfl
  | cons hcd _ ih =>
    rw [List.all_cons, List.all_cons, ih]
    rcases hcd with rfl | ⟨hc, hd⟩
    · rfl
    · rw [hc, hd]

theorem head?_isDigit (h : SameShape cs ds) :
    cs.head?.any Char.isDigit = ds.head?.any Char.isDigit := by
  cases h with
  | nil => rfl
  | cons hcd _ =>
    rcases hcd with rfl | ⟨hc, hd⟩
    · rfl
    · rw [List.head?_cons, List.head?_cons, Option.any_some, Option.any_some, hc, hd]

/-- What is no digit stands in both texts. -/
theorem exists_cons {c : Char} (h : SameShape (c :: cs) ds) (hc : c.isDigit = false) :
    ∃ ds', ds = c :: ds' ∧ SameShape cs ds' := by
  cases h with
  | cons hcd hrest =>
    rcases hcd with rfl | ⟨hdigit, -⟩
    · exact ⟨_, rfl, hrest⟩
    · rw [hc] at hdigit
      cases hdigit

/-- The digits that a text begins with end in both texts at the same place. -/
theorem span_isDigit (h : SameShape cs ds) :
    (cs.takeWhile Char.isDigit).length = (ds.takeWhile Char.isDigit).length ∧
      SameShape (cs.dropWhile Char.isDigit) (ds.dropWhile Char.isDigit) := by
  induction h with
  | nil => exact ⟨rfl, .nil⟩
  | cons hcd hrest ih =>
    rw [List.takeWhile_cons, List.takeWhile_cons, List.dropWhile_cons, List.dropWhile_cons]
    rcases hcd with rfl | ⟨hc, hd⟩
    · split
      · exact ⟨by rw [List.length_cons, List.length_cons, ih.1], ih.2⟩
      · exact ⟨rfl, .cons (.inl rfl) hrest⟩
    · rw [if_pos hc, if_pos hd, if_pos hc, if_pos hd, List.length_cons, List.length_cons, ih.1]
      exact ⟨rfl, ih.2⟩

/-- What a text begins with that is no digit stands in both texts. -/
theorem span_of_isDigit_eq_false (h : SameShape cs ds) {p : Char → Bool}
    (hp : ∀ c, c.isDigit = true → p c = false) :
    cs.takeWhile p = ds.takeWhile p ∧ SameShape (cs.dropWhile p) (ds.dropWhile p) := by
  induction h with
  | nil => exact ⟨rfl, .nil⟩
  | cons hcd hrest ih =>
    rw [List.takeWhile_cons, List.takeWhile_cons, List.dropWhile_cons, List.dropWhile_cons]
    rcases hcd with rfl | ⟨hc, hd⟩
    · split
      · exact ⟨by rw [ih.1], ih.2⟩
      · exact ⟨rfl, .cons (.inl rfl) hrest⟩
    · rw [hp _ hc, hp _ hd]
      exact ⟨rfl, .cons (.inr ⟨hc, hd⟩) hrest⟩

theorem lt_iff_dropWhile_lt (h : SameShape cs ds) {p : Char → Bool}
    (hp : ∀ c, c.isDigit = true → p c = false) :
    cs < ds ↔ cs.dropWhile p < ds.dropWhile p := by
  obtain ⟨hsame, -⟩ := h.span_of_isDigit_eq_false hp
  conv_lhs =>
    rw [← List.takeWhile_append_dropWhile (p := p) (l := cs),
      ← List.takeWhile_append_dropWhile (p := p) (l := ds), hsame]
  rw [append_lt_append_iff rfl]
  simp only [List.lt_irrefl, eq_self, true_and, false_or]

/-- The same at the end of the texts. -/
theorem lt_iff_reverse_dropWhile_lt (h : SameShape cs ds) {p : Char → Bool}
    (hp : ∀ c, c.isDigit = true → p c = false) :
    cs < ds ↔ (cs.reverse.dropWhile p).reverse < (ds.reverse.dropWhile p).reverse := by
  obtain ⟨hsame, hrest⟩ := h.reverse.span_of_isDigit_eq_false hp
  have hsplit : ∀ es : List Char,
      es = (es.reverse.dropWhile p).reverse ++ (es.reverse.takeWhile p).reverse := fun es => by
    rw [← List.reverse_append, List.takeWhile_append_dropWhile, List.reverse_reverse]
  conv_lhs => rw [hsplit cs, hsplit ds, hsame]
  rw [append_lt_append_iff hrest.reverse.length_eq]
  simp only [List.lt_irrefl, and_false, or_false]

/-- White space around texts has no part in their order. -/
theorem trimChars (h : SameShape cs ds) :
    SameShape (Text.trimChars cs) (Text.trimChars ds) ∧
      (cs < ds ↔ Text.trimChars cs < Text.trimChars ds) := by
  have hblank : ∀ c, c.isDigit = true → isBlank c = false := fun c => isBlank_of_isDigit
  have hfront := (h.span_of_isDigit_eq_false hblank).2
  exact ⟨(hfront.reverse.span_of_isDigit_eq_false hblank).2.reverse,
    (h.lt_iff_dropWhile_lt hblank).trans (hfront.lt_iff_reverse_dropWhile_lt hblank)⟩

end SameShape

/-! ### Reading in step -/

/-- What has been read of two texts decides their order if it is not the same. Otherwise what
remains of them decides it, and that has one shape again. -/
structure InStep {α : Type} [LT α] (cs ds : List Char) (a b : α) (cs' ds' : List Char) : Prop where
  shape : SameShape cs' ds'
  lt_iff : cs < ds ↔ a < b ∨ a = b ∧ cs' < ds'

/-- If the first text is not the lesser one, what is read of it is not, and where that is the same
what remains of it is not. -/
theorem InStep.le {cs ds cs' ds' : List Char} {a b : ℕ} (h : InStep cs ds a b cs' ds')
    (hle : ¬ cs < ds) : b ≤ a ∧ (a = b → ¬ cs' < ds') := by
  rw [h.lt_iff, not_or, not_and, Nat.not_lt] at hle
  exact hle

/-- Digits are read in step. -/
theorem inStep_append {xs ys cs ds : List Char} (hlength : xs.length = ys.length)
    (hx : ∀ c ∈ xs, c.isDigit = true) (hy : ∀ c ∈ ys, c.isDigit = true) (h : SameShape cs ds) :
    InStep (xs ++ cs) (ys ++ ds) (ofDigits xs) (ofDigits ys) cs ds where
  shape := h
  lt_iff := by
    obtain ⟨hlt, heq⟩ := lt_iff_ofDigits_lt hlength hx hy
    rw [append_lt_append_iff hlength, hlt, heq]

theorem SameShape.inStep_take {cs ds : List Char} (h : SameShape cs ds) {n : ℕ}
    (hdigits : (cs.take n).all Char.isDigit = true) :
    InStep cs ds (ofDigits (cs.take n)) (ofDigits (ds.take n)) (cs.drop n) (ds.drop n) := by
  have hdigits' : (ds.take n).all Char.isDigit = true := (h.take n).all_isDigit ▸ hdigits
  have hstep := inStep_append (h.take n).length_eq (List.all_eq_true.mp hdigits)
    (List.all_eq_true.mp hdigits') (h.drop n)
  rwa [List.take_append_drop, List.take_append_drop] at hstep

/-- A character that stands in both texts has no part in their order. -/
theorem append_cons_lt_append_cons_iff {xs ys cs ds : List Char} (hlength : xs.length = ys.length)
    (c : Char) : xs ++ c :: cs < ys ++ c :: ds ↔ xs ++ cs < ys ++ ds := by
  simp only [append_lt_append_iff hlength, List.cons_lt_cons_iff, Char.lt_irrefl, eq_self,
    true_and, false_or]

end GuardedSearch.Text
