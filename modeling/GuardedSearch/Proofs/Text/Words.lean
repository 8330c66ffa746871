import GuardedSearch.Text.Blank
import GuardedSearch.Text.Word
import Mathlib.Data.List.TakeWhile

/-!
# The words of a text

Words are found by going through a text with the block under way in hand. What is found can be told
from the text alone: a word is a block of letters and numbers with neither of them right before it
or right after it. White space is no part of a word, so that a text has the same words with white
space around it as without.

## Main definitions

* `Text.IsBlock` — a longest block of characters with a property
* `Text.ShareWord` — two texts have a word in common, whatever its case

## Main results

* `Text.mem_blocks_iff` — the blocks that are found are the longest ones
* `Text.isBlock_trimChars_iff` — trimming keeps the words
* `Text.any_words_mem_words_iff` — looking up words of one text among those of another
-/

namespace GuardedSearch.Text

/-- A block of characters with a property, at least one, that stands in a text without a character
of the property right before it or right after it. -/
def IsBlock (p : Char → Bool) (cs block : List Char) : Prop :=
  block ≠ [] ∧ (∀ c ∈ block, p c = true) ∧
    ∃ before after, cs = before ++ block ++ after ∧
      (∀ c, before.getLast? = some c → p c = false) ∧ ∀ c, after.head? = some c → p c = false

/-- The texts have words, of letters and numbers in any script, that are the same in lower case. -/
def ShareWord (s t : String) : Prop :=
  ∃ word word', IsBlock isWordChar s.toList word ∧ IsBlock isWordChar t.toList word' ∧
    lower (String.ofList word) = lower (String.ofList word')

variable {p : Char → Bool} {block cs xs rest : List Char} {c : Char}

/-! ### Longest blocks -/

theorem IsBlock.mem (h : IsBlock p cs block) (hc : c ∈ block) : c ∈ cs := by
  obtain ⟨-, -, before, after, rfl, -⟩ := h
  exact List.mem_append_left after (List.mem_append_right before hc)

/-- If all characters have the property, but not the last one, there are none. -/
theorem eq_nil_of_getLast? (hxs : ∀ x ∈ xs, p x = true)
    (hlast : ∀ c, xs.getLast? = some c → p c = false) : xs = [] := by
  cases h : xs.getLast? with
  | none => exact List.getLast?_eq_none_iff.mp h
  | some c =>
    have hc := hlast c h
    rw [hxs c (List.mem_of_getLast? h)] at hc
    cases hc

/-- Characters that all have the property are one block, if there are any. -/
theorem isBlock_of_all (hxs : ∀ x ∈ xs, p x = true) :
    IsBlock p xs block ↔ xs ≠ [] ∧ block = xs := by
  constructor
  · rintro ⟨hne, -, before, after, rfl, hbefore, hafter⟩
    have hbefore : before = [] :=
      eq_nil_of_getLast? (fun x hx => hxs x (by simp [hx])) hbefore
    have hafter : after.reverse = [] :=
      eq_nil_of_getLast? (fun x hx => hxs x (by simp_all)) (by simpa using hafter)
    obtain rfl := List.reverse_eq_nil_iff.mp hafter
    subst hbefore
    simpa using hne
  · rintro ⟨hne, rfl⟩
    exact ⟨hne, hxs, [], [], by simp, nofun, nofun⟩

/-- **A character without the property parts the blocks** before it from those behind it. -/
theorem isBlock_append_cons_iff (hxs : ∀ x ∈ xs, p x = true) (hc : p c = false) :
    IsBlock p (xs ++ c :: rest) block ↔ (xs ≠ [] ∧ block = xs) ∨ IsBlock p rest block := by
  constructor
  · rintro ⟨hne, hblock, before, after, hsplit, hbefore, hafter⟩
    rw [List.append_assoc] at hsplit
    rcases List.append_eq_append_iff.mp hsplit with ⟨ys, rfl, hrest⟩ | ⟨ys, rfl, hrest⟩
    · -- the block begins behind the characters of `xs`, and not with `c`
      cases ys with
      | nil =>
        obtain ⟨d, block, rfl⟩ := List.exists_cons_of_ne_nil hne
        rw [List.nil_append, List.cons_append] at hrest
        obtain ⟨rfl, -⟩ := List.cons.inj hrest
        rw [hblock c List.mem_cons_self] at hc
        cases hc
      | cons d ys =>
        obtain ⟨rfl, rfl⟩ := List.cons.inj hrest
        refine .inr ⟨hne, hblock, ys, after, (List.append_assoc _ _ _).symm, fun x hx => ?_, hafter⟩
        refine hbefore x ?_
        rw [List.getLast?_append, List.getLast?_cons, hx]
        rfl
    · -- the block begins within `xs`, whose characters all have the property
      have hall : IsBlock p (before ++ ys) block := by
        rcases List.append_eq_append_iff.mp hrest.symm with ⟨zs, rfl, hafter'⟩ | ⟨zs, rfl, hafter'⟩
        · refine ⟨hne, hblock, before, [], ?_, hbefore, nofun⟩
          cases zs with
          | nil => simp
          | cons d zs =>
            obtain ⟨rfl, -⟩ := List.cons.inj hafter'
            rw [hblock c (by simp)] at hc
            cases hc
        · refine ⟨hne, hblock, before, zs, by simp, hbefore, fun x hx => hafter x ?_⟩
          rw [hafter', List.head?_append, hx]
          rfl
      exact .inl ((isBlock_of_all hxs).mp hall)
  · rintro (⟨hne, rfl⟩ | ⟨hne, hblock, before, after, rfl, hbefore, hafter⟩)
    · refine ⟨hne, hxs, [], c :: rest, by simp, nofun, ?_⟩
      rintro _ ⟨⟩
      exact hc
    · refine ⟨hne, hblock, xs ++ c :: before, after, by simp, fun x hx => ?_, hafter⟩
      rw [List.getLast?_append, List.getLast?_cons] at hx
      cases hlast : before.getLast? with
      | none =>
        simp only [hlast, Option.getD_none, Option.some_or, Option.some.injEq] at hx
        exact hx ▸ hc
      | some y =>
        simp only [hlast, Option.getD_some, Option.some_or, Option.some.injEq] at hx
        exact hbefore x (hx ▸ hlast)

/-- The blocks that are found from a block under way. -/
theorem mem_blocksFrom_iff (hxs : ∀ x ∈ xs, p x = true) :
    block ∈ blocksFrom p xs cs ↔ IsBlock p (xs.reverse ++ cs) block := by
  induction cs generalizing xs with
  | nil =>
    rw [List.append_nil, isBlock_of_all (by simpa using hxs), blocksFrom]
    cases xs <;> simp
  | cons c rest ih =>
    rw [blocksFrom]
    split
    case isTrue hc =>
      rw [ih (List.forall_mem_cons.mpr ⟨hc, hxs⟩), List.reverse_cons, List.append_assoc]
      rfl
    case isFalse hc =>
      rw [isBlock_append_cons_iff (by simpa using hxs) (Bool.not_eq_true _ ▸ hc)]
      have hrest : block ∈ blocksFrom p [] rest ↔ IsBlock p rest block := ih nofun
      cases xs with
      | nil => simpa using hrest
      | cons x xs => simp [hrest]

/-- **The blocks that are found are the longest ones.** -/
theorem mem_blocks_iff : block ∈ blocks p cs ↔ IsBlock p cs block := by
  have hnil : ∀ x ∈ ([] : List Char), p x = true := nofun
  exact mem_blocksFrom_iff hnil

/-! ### White space around blocks -/

theorem isBlock_reverse_iff : IsBlock p cs.reverse block.reverse ↔ IsBlock p cs block := by
  have hreverse : ∀ {cs block : List Char}, IsBlock p cs block →
      IsBlock p cs.reverse block.reverse := by
    rintro _ block ⟨hne, hblock, before, after, rfl, hbefore, hafter⟩
    refine ⟨by simpa using hne, by simpa using hblock, after.reverse, before.reverse, by simp, ?_,
      ?_⟩
    · simpa using hafter
    · simpa using hbefore
  refine ⟨fun h => ?_, hreverse⟩
  simpa using hreverse h

theorem isBlock_dropWhile_iff {q : Char → Bool} (h : ∀ c, q c = true → p c = false) :
    IsBlock p (cs.dropWhile q) block ↔ IsBlock p cs block := by
  induction cs with
  | nil => rfl
  | cons c rest ih =>
    rw [List.dropWhile_cons]
    split
    case isTrue hc =>
      have hnil : ∀ x ∈ ([] : List Char), p x = true := nofun
      have hcons : IsBlock p ([] ++ c :: rest) block ↔ _ := isBlock_append_cons_iff hnil (h c hc)
      simpa [ih] using hcons.symm
    case isFalse => rfl

theorem isBlock_trimChars_iff (h : ∀ c, isBlank c = true → p c = false) :
    IsBlock p (trimChars cs) block ↔ IsBlock p cs block := by
  rw [trimChars, ← isBlock_reverse_iff, List.reverse_reverse, isBlock_dropWhile_iff h,
    isBlock_reverse_iff, isBlock_dropWhile_iff h]

theorem trimChars_eq_nil_iff : trimChars cs = [] ↔ ∀ c ∈ cs, isBlank c = true := by
  rw [trimChars, List.reverse_eq_nil_iff, List.dropWhile_eq_nil_iff]
  constructor
  · intro h
    have hnil : cs.dropWhile isBlank = [] := by
      cases hrest : cs.dropWhile isBlank with
      | nil => rfl
      | cons c rest =>
        have hc := List.head?_dropWhile_not isBlank cs
        rw [hrest] at h hc
        simp [h c (by simp)] at hc
    exact List.dropWhile_eq_nil_iff.mp hnil
  · intro h c hc
    exact h c ((List.dropWhile_suffix isBlank).subset (List.mem_reverse.mp hc))

/-! ### Words -/

/-- White space is no part of a word. -/
theorem isWordChar_of_isBlank (h : isBlank c = true) : isWordChar c = false := by
  have hpoints : ∀ r ∈ blankRanges, ∀ n ∈ List.range' r.1 (r.2 + 1 - r.1),
      isWordChar (Char.ofNat n) = false := by
    decide +kernel
  obtain ⟨r, hr, hc⟩ := List.any_eq_true.mp h
  rw [Bool.and_eq_true, decide_eq_true_eq, decide_eq_true_eq] at hc
  have hword := hpoints r hr c.toNat (List.mem_range'_1.mpr (by omega))
  rwa [Char.ofNat_toNat] at hword

theorem mem_words_iff {s word : String} :
    word ∈ words s ↔
      ∃ block, IsBlock isWordChar s.toList block ∧ lower (String.ofList block) = word := by
  simp only [words, List.mem_map, mem_blocks_iff]

/-- Words of one text are looked up among those of another, white space around which does not
matter. -/
theorem any_words_mem_words_iff (s t : String) :
    ((words s).any fun word => word ∈ words (trim t)) = true ↔ ShareWord s t := by
  have htrim : ∀ block, IsBlock isWordChar (trim t).toList block ↔
      IsBlock isWordChar t.toList block := fun block => by
    rw [trim, String.toList_ofList]
    exact isBlock_trimChars_iff fun _ => isWordChar_of_isBlank
  simp only [List.any_eq_true, decide_eq_true_eq, mem_words_iff, htrim, ShareWord]
  constructor
  · rintro ⟨_, ⟨word, hword, rfl⟩, word', hword', hlower⟩
    exact ⟨word, word', hword, hword', hlower.symm⟩
  · rintro ⟨word, word', hword, hword', hlower⟩
    exact ⟨_, ⟨word, hword, rfl⟩, word', hword', hlower.symm⟩

/-- A text without letters and numbers has no word in common with any other. -/
theorem not_shareWord_of_forall {t : String} (h : ∀ c ∈ t.toList, isWordChar c = false)
    (s : String) : ¬ShareWord s t := by
  rintro ⟨-, word', -, hword', -⟩
  obtain ⟨c, rest, rfl⟩ := List.exists_cons_of_ne_nil hword'.1
  have hc := hword'.2.1 c List.mem_cons_self
  rw [h c (hword'.mem List.mem_cons_self)] at hc
  cases hc

end GuardedSearch.Text
