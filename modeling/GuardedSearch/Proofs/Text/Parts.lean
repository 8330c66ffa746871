import GuardedSearch.Text.Case
import GuardedSearch.Text.Search
import Mathlib.Data.List.Infix

/-!
# Parts of a text in lower case

A search for a part of a text brings the part and the text to lower case, each by itself, and looks
for the one in the other. Lower-casing goes character by character, and a character becomes the same
in the part as in the text, even where it becomes more than one. There is one exception. A capital
sigma becomes one letter at the end of a word and another one elsewhere, and the end of a word is
seen from the characters around the sigma. So a part that ends in the middle of a word, or begins
there, may take for the end of a word what is none in the text, or the other way round; then the
part in lower case does not stand where the part stands.

## Main definitions

* `Text.EndsWord` — between which characters a capital sigma is the end of a word
* `Text.KeepsWordEnds` — a part has the same ends of words by itself as inside a text
* `Text.lowerBetween` — lower-casing inside a text

## Main results

* `lowerBetween_eq_iff` — only a capital sigma sees what is around it
* `isPrefixOf_lowerChars_append_iff` — a text in lower case begins with its beginning in lower case
  exactly if the beginning keeps its ends of words
* `occursIn_lowerChars_append` — a text in lower case contains every part that keeps its ends of
  words
-/

namespace GuardedSearch.Text

/-! ### Ends of words -/

/-- Between these characters a capital sigma is the last letter of a word: a letter comes before it
and none behind it, where marks and points that belong to a word are passed over. -/
def EndsWord (before after : List Char) : Prop :=
  beginsCased before.reverse = true ∧ beginsCased after = false

instance (before after : List Char) : Decidable (EndsWord before after) :=
  inferInstanceAs (Decidable (_ ∧ _))

/-- Each capital sigma of a part that stands between `before` and `after` is the end of a word there
exactly if it is the end of a word in the part by itself. -/
def KeepsWordEnds (before part after : List Char) : Prop :=
  ∀ x y, part = x ++ '\u03A3' :: y → (EndsWord (before ++ x) (y ++ after) ↔ EndsWord x y)

/-- A part without a capital sigma has no ends of words to lose. -/
theorem keepsWordEnds_of_not_mem {part : List Char} (h : '\u03A3' ∉ part)
    (before after : List Char) : KeepsWordEnds before part after := by
  rintro x y rfl
  exact absurd (List.mem_append_right x List.mem_cons_self) h

theorem lowerSigma_eq_iff {before after before' after' : List Char} :
    lowerSigma before after = lowerSigma before' after' ↔
      (EndsWord before.reverse after ↔ EndsWord before'.reverse after') := by
  have hform : ∀ b a, lowerSigma b a = if EndsWord b.reverse a then '\u03C2' else '\u03C3' := by
    intro b a
    simp [lowerSigma, EndsWord]
  rw [hform, hform]
  by_cases h : EndsWord before.reverse after
  · by_cases h' : EndsWord before'.reverse after' <;> simp [h, h']
  · by_cases h' : EndsWord before'.reverse after' <;> simp [h, h']

/-! ### Lower-casing inside a text -/

/-- What characters become that stand between `before` (nearest first) and `after`. -/
def lowerBetween (before after : List Char) : List Char → List Char
  | [] => []
  | c :: rest =>
    (if c = '\u03A3' then [lowerSigma before (rest ++ after)] else lowerChar c) ++
      lowerBetween (c :: before) after rest

/-- **Lower-casing goes on from where it is.** -/
theorem lowerAfter_append (before part after : List Char) :
    lowerAfter before (part ++ after) =
      lowerBetween before after part ++ lowerAfter (part.reverse ++ before) after := by
  induction part generalizing before with
  | nil => rfl
  | cons c rest ih =>
    rw [List.cons_append, lowerAfter, ih, lowerBetween, List.reverse_cons, List.append_assoc,
      List.append_assoc, List.singleton_append]

theorem lowerChars_eq_lowerBetween (part : List Char) :
    lowerChars part = lowerBetween [] [] part := by
  simpa [lowerAfter, lowerChars] using lowerAfter_append [] part []

/-- What is around a part decides how it looks in lower case, but not how long it gets. -/
theorem length_lowerBetween (before after before' after' part : List Char) :
    (lowerBetween before after part).length = (lowerBetween before' after' part).length := by
  induction part generalizing before before' with
  | nil => rfl
  | cons c rest ih =>
    rw [lowerBetween, lowerBetween, List.length_append, List.length_append,
      ih (c :: before) (c :: before')]
    split <;> rfl

/-- **Only a capital sigma sees what is around it.** -/
theorem lowerBetween_eq_iff {before after before' after' part : List Char} :
    lowerBetween before after part = lowerBetween before' after' part ↔
      ∀ x y, part = x ++ '\u03A3' :: y →
        lowerSigma (x.reverse ++ before) (y ++ after) =
          lowerSigma (x.reverse ++ before') (y ++ after') := by
  induction part generalizing before before' with
  | nil => simp [lowerBetween]
  | cons c rest ih =>
    have happend : lowerBetween before after (c :: rest) = lowerBetween before' after' (c :: rest) ↔
        (c = '\u03A3' → lowerSigma before (rest ++ after) = lowerSigma before' (rest ++ after')) ∧
          lowerBetween (c :: before) after rest = lowerBetween (c :: before') after' rest := by
      rw [lowerBetween, lowerBetween]
      by_cases hc : c = '\u03A3'
      · simp [hc]
      · simp [hc]
    rw [happend, ih]
    constructor
    · rintro ⟨hc, hrest⟩ x y hsplit
      cases x with
      | nil =>
        obtain ⟨rfl, rfl⟩ := List.cons.inj hsplit
        exact hc rfl
      | cons b x =>
        obtain ⟨rfl, hx⟩ := List.cons.inj hsplit
        simpa using hrest x y hx
    · intro h
      refine ⟨fun hc => h [] rest (by rw [hc]; rfl), fun x y hsplit => ?_⟩
      simpa using h (c :: x) y (by rw [hsplit]; rfl)

/-- A part looks in a text as it looks by itself exactly if it keeps its ends of words. -/
theorem lowerBetween_eq_lowerChars_iff {before part after : List Char} :
    lowerBetween before.reverse after part = lowerChars part ↔ KeepsWordEnds before part after := by
  rw [lowerChars_eq_lowerBetween, lowerBetween_eq_iff, KeepsWordEnds]
  simp only [lowerSigma_eq_iff, List.reverse_append, List.reverse_reverse, List.append_nil]

instance (before part after : List Char) : Decidable (KeepsWordEnds before part after) :=
  decidable_of_iff _ lowerBetween_eq_lowerChars_iff

/-! ### Parts -/

/-- A text in lower case, with a part of it set apart. -/
theorem lowerChars_append (before part after : List Char) :
    ∃ x y, x.length = (lowerChars before).length ∧
      lowerChars (before ++ part ++ after) = x ++ lowerBetween before.reverse after part ++ y := by
  refine ⟨lowerBetween [] (part ++ after) before, lowerAfter (part.reverse ++ before.reverse) after,
    ?_, ?_⟩
  · rw [lowerChars_eq_lowerBetween]
    exact length_lowerBetween _ _ _ _ before
  · rw [List.append_assoc, lowerChars, lowerAfter_append, lowerAfter_append, List.append_nil,
      List.append_assoc]

theorem occursIn_append (x part y : List Char) : occursIn part (x ++ part ++ y) = true := by
  induction x with
  | nil => exact occursIn_of_isPrefixOf (List.isPrefixOf_iff_prefix.mpr (List.prefix_append part y))
  | cons c x ih =>
    rw [List.cons_append, List.cons_append, occursIn, ih, Bool.or_true]

/-- **A text in lower case begins with its beginning in lower case** exactly if the beginning keeps
its ends of words. -/
theorem isPrefixOf_lowerChars_append_iff {part after : List Char} :
    (lowerChars part).isPrefixOf (lowerChars (part ++ after)) = true ↔
      KeepsWordEnds [] part after := by
  obtain ⟨x, y, hx, hlower⟩ := lowerChars_append [] part after
  obtain rfl : x = [] := List.length_eq_zero_iff.mp hx
  rw [List.nil_append] at hlower
  rw [← lowerBetween_eq_lowerChars_iff, hlower, List.nil_append, List.isPrefixOf_iff_prefix]
  constructor
  · intro hprefix
    have hlength : (lowerChars part).length = (lowerBetween [].reverse after part).length := by
      rw [lowerChars_eq_lowerBetween]
      exact length_lowerBetween _ _ _ _ part
    exact ((List.prefix_of_prefix_length_le hprefix (List.prefix_append _ y)
      hlength.le).eq_of_length hlength).symm
  · intro heq
    rw [heq]
    exact List.prefix_append _ y

/-- **A text in lower case contains in lower case every part** that keeps its ends of words. -/
theorem occursIn_lowerChars_append {before part after : List Char}
    (h : KeepsWordEnds before part after) :
    occursIn (lowerChars part) (lowerChars (before ++ part ++ after)) = true := by
  obtain ⟨x, y, -, hlower⟩ := lowerChars_append before part after
  rw [hlower, lowerBetween_eq_lowerChars_iff.mpr h]
  exact occursIn_append x _ y

end GuardedSearch.Text
