import GuardedSearch.Text.Case

/-!
# The two foldings of case

Entities are looked up by `lower` and rules apply by `sameIgnoringAsciiCase`. Of the two, the second
is the finer: `lower` does not see the case of `A` to `Z`, so texts that are the same up to ASCII
case have the same lower-case form. The converse fails, since `lower` also identifies letters
outside ASCII with each other, and some of them with letters of ASCII.

## Main results

* `lowerChars_map_toLower` — lower-casing is blind to the case of `A` to `Z`
* `lower_eq_of_foldAscii_eq` — hence the one folding factors through the other
-/

namespace GuardedSearch.Text

/-! ### Single characters

What a table says of the 128 characters of ASCII is checked one by one; no other character has an
ASCII case. -/

theorem toLower_of_le {c : Char} (h : 0x80 ≤ c.toNat) : c.toLower = c := by
  have hz : ¬ (c.val ≥ 'A'.val ∧ c.val ≤ 'Z'.val) := by
    rintro ⟨-, hle⟩
    have hle' : c.toNat ≤ 90 := UInt32.le_iff_toNat_le.mp hle
    omega
  exact dif_neg hz

/-- A function of characters that takes ASCII letters of either case to the same value is blind to
ASCII case altogether. -/
theorem map_toLower_of_ascii {β : Type} {f : Char → β}
    (h : ∀ n < 0x80, f (Char.ofNat n).toLower = f (Char.ofNat n)) (c : Char) :
    f c.toLower = f c := by
  rcases Nat.lt_or_ge c.toNat 0x80 with hc | hc
  · have hn := h c.toNat hc
    rwa [Char.ofNat_toNat] at hn
  · rw [toLower_of_le hc]

theorem lowerChar_toLower (c : Char) : lowerChar c.toLower = lowerChar c :=
  map_toLower_of_ascii (by decide +kernel) c

/-- Of a table only the ranges that begin within ASCII matter for a character of ASCII. -/
theorem inRanges_of_lt (ranges : List (Nat × Nat)) {c : Char} (h : c.toNat < 0x80) :
    inRanges ranges c = inRanges (ranges.filter (·.1 < 0x80)) c := by
  have hbegin : ∀ r : Nat × Nat, (decide (r.1 < 0x80) && (r.1 ≤ c.toNat && c.toNat ≤ r.2))
      = (r.1 ≤ c.toNat && c.toNat ≤ r.2) := by
    intro r
    by_cases hr : r.1 ≤ c.toNat
    · have : r.1 < 0x80 := by omega
      simp [this]
    · simp [hr]
  simp only [inRanges, List.any_filter, hbegin]

theorem inRanges_toLower {ranges : List (Nat × Nat)} (ascii : List (Nat × Nat))
    (hascii : ranges.filter (·.1 < 0x80) = ascii)
    (h : ∀ n < 0x80, inRanges ascii (Char.ofNat n).toLower = inRanges ascii (Char.ofNat n))
    (c : Char) : inRanges ranges c.toLower = inRanges ranges c := by
  have hlt : ∀ n < 0x80, (Char.ofNat n).toNat < 0x80 ∧ (Char.ofNat n).toLower.toNat < 0x80 := by
    decide
  refine map_toLower_of_ascii (fun n hn => ?_) c
  rw [inRanges_of_lt ranges (hlt n hn).1, inRanges_of_lt ranges (hlt n hn).2, hascii]
  exact h n hn

theorem isCased_toLower (c : Char) : isCased c.toLower = isCased c :=
  inRanges_toLower [(0x41, 0x5A), (0x61, 0x7A)] (by decide +kernel) (by decide +kernel) c

theorem isCaseIgnorable_toLower (c : Char) : isCaseIgnorable c.toLower = isCaseIgnorable c :=
  inRanges_toLower [(0x27, 0x27), (0x2E, 0x2E), (0x3A, 0x3A), (0x5E, 0x5E), (0x60, 0x60)]
    (by decide +kernel) (by decide +kernel) c

theorem toLower_eq_sigma_iff (c : Char) : c.toLower = '\u03A3' ↔ c = '\u03A3' := by
  have h := map_toLower_of_ascii (f := fun c => decide (c = '\u03A3')) (by decide +kernel) c
  simpa using h

/-! ### Texts -/

theorem beginsCased_map_toLower (cs : List Char) :
    beginsCased (cs.map Char.toLower) = beginsCased cs := by
  have hp : isCaseIgnorable ∘ Char.toLower = isCaseIgnorable := funext isCaseIgnorable_toLower
  simp only [beginsCased]
  rw [List.dropWhile_map, hp]
  cases cs.dropWhile isCaseIgnorable with
  | nil => rfl
  | cons c _ => exact isCased_toLower c

theorem lowerSigma_map_toLower (before after : List Char) :
    lowerSigma (before.map Char.toLower) (after.map Char.toLower) = lowerSigma before after := by
  simp only [lowerSigma, beginsCased_map_toLower]

-- The characters already passed decide what a sigma becomes, so they are folded along.
theorem lowerAfter_map_toLower (before cs : List Char) :
    lowerAfter (before.map Char.toLower) (cs.map Char.toLower) = lowerAfter before cs := by
  induction cs generalizing before with
  | nil => rfl
  | cons c rest ih =>
    have hrest : lowerAfter (c.toLower :: before.map Char.toLower) (rest.map Char.toLower)
        = lowerAfter (c :: before) rest := ih (c :: before)
    rw [List.map_cons, lowerAfter, lowerAfter, hrest, lowerSigma_map_toLower, lowerChar_toLower]
    simp only [toLower_eq_sigma_iff]

/-- **Lower-casing is blind to ASCII case.** -/
theorem lowerChars_map_toLower (cs : List Char) :
    lowerChars (cs.map Char.toLower) = lowerChars cs :=
  lowerAfter_map_toLower [] cs

/-- Texts that are the same up to ASCII case have the same lower-case form. -/
theorem lower_eq_of_foldAscii_eq {a b : String} (h : foldAscii a = foldAscii b) :
    lower a = lower b := by
  rw [foldAscii, foldAscii] at h
  rw [lower, lower, ← lowerChars_map_toLower a.toList, h, lowerChars_map_toLower]

-- the converse fails: the Kelvin sign lowers to the letter that it is not up to ASCII case
example : lower "\u212A" = lower "K" ∧ sameIgnoringAsciiCase "\u212A" "K" = false := by
  decide +kernel

end GuardedSearch.Text
