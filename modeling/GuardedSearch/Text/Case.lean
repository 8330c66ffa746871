import GuardedSearch.Text.CaseTable

/-!
# Case

Two foldings of case are in use, and they differ outside ASCII.

* `lower` is the full Unicode lower-casing: `İ` becomes two characters, and a capital sigma at the
  end of a word becomes `ς`.
* `sameIgnoringAsciiCase` compares two texts up to the case of the letters `A` to `Z` only.
-/

namespace GuardedSearch.Text

/-! ### Lower-casing -/

/-- Whether the character has the property `Cased`. -/
def isCased (c : Char) : Bool :=
  inRanges casedRanges c

/-- Whether the character has the property `Case_Ignorable`. -/
def isCaseIgnorable (c : Char) : Bool :=
  inRanges caseIgnorableRanges c

/-- The lower-case form of a character outside any word. -/
def lowerChar (c : Char) : List Char :=
  if c.toNat < 0x80 then [c.toLower]
  else if c = '\u0130' then ['i', '\u0307']
  else match lowerRuns.find? (·.covers c.toNat) with
    | some run => [Char.ofNat (run.map c.toNat)]
    | none => [c]

/-- Whether the first character that is not case-ignorable is cased. -/
def beginsCased (cs : List Char) : Bool :=
  match cs.dropWhile isCaseIgnorable with
  | c :: _ => isCased c
  | [] => false

/-- The lower-case form of a capital sigma between the characters `before` it (nearest first) and
those `after` it: final where a word ends with it. -/
def lowerSigma (before after : List Char) : Char :=
  if beginsCased before && !beginsCased after then '\u03C2' else '\u03C3'

/-- Lower-cases characters that follow `before` (nearest first). -/
def lowerAfter (before : List Char) : List Char → List Char
  | [] => []
  | c :: rest =>
    (if c = '\u03A3' then [lowerSigma before rest] else lowerChar c) ++
      lowerAfter (c :: before) rest

/-- The lower-case form of a sequence of characters. -/
def lowerChars (cs : List Char) : List Char :=
  lowerAfter [] cs

/-- The lower-case form of a text. -/
def lower (s : String) : String :=
  String.ofList (lowerChars s.toList)

/-! ### Comparing up to ASCII case -/

/-- The text with `A` to `Z` in lower case and everything else as it is. -/
def foldAscii (s : String) : List Char :=
  s.toList.map Char.toLower

/-- Whether two texts differ at most in the case of the letters `A` to `Z`. -/
def sameIgnoringAsciiCase (a b : String) : Bool :=
  foldAscii a == foldAscii b

@[simp] theorem sameIgnoringAsciiCase_iff {a b : String} :
    sameIgnoringAsciiCase a b = true ↔ foldAscii a = foldAscii b := by
  simp [sameIgnoringAsciiCase]

theorem sameIgnoringAsciiCase_refl (a : String) : sameIgnoringAsciiCase a a = true := by
  simp

end GuardedSearch.Text
