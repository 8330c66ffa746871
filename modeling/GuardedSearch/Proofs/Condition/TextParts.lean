import GuardedSearch.Proofs.Document.OneValue
import GuardedSearch.Proofs.Text.Parts

/-!
# Conditions on parts of texts

A text property may be asked for the texts that begin with a part, and for those that contain it, in
whatever case. The first is asked of the values for comparison, the second of those for search. A
document that stores a text once stores it for comparison, and then the same values are searched.

Both operators take the part that they are given, but not in every place where it stands in a text.
They compare lower-case forms, and where the part cuts a word at a capital sigma, the sigma gets
another form by itself than in the text. A part without a capital sigma is found wherever it stands.

## Main definitions

* `Document.StoresOnce` — a document has no separate values for search

## Main results

* `PathPair.fieldValues_text` — values that are stored once are searched
* `parts_of_texts_found` — which parts of a stored text are found, by either operator
* `part_of_word_unmatched` — parts that are not found in the text that they are taken from
-/

namespace GuardedSearch

/-! ### Texts that are stored once -/

theorem Text.withoutEnding?_eq_some_iff {ending text stem : String} :
    withoutEnding? ending text = some stem ↔ text = stem ++ ending := by
  rw [withoutEnding?]
  constructor
  · intro h
    split at h
    case isTrue hending =>
      have hsplit := List.suffix_iff_eq_append.mp (List.isSuffixOf_iff_suffix.mp hending)
      rw [← Option.some.inj h, ← String.toList_inj, String.toList_append, String.toList_ofList,
        hsplit]
    case isFalse => cases h
  · rintro rfl
    rw [if_pos (List.isSuffixOf_iff_suffix.mpr (by simp))]
    simp

/-- The document has no values for search that are stored apart from those for comparison. -/
def Document.StoresOnce (paths : PathPair) (d : Document) : Prop :=
  paths.text ≠ paths.exact → Json.valuesAt paths.text d.source = []

/-- **Values that are stored once are searched.** -/
theorem PathPair.fieldValues_text {path : String} {d : Document} (hd : d.StoresOnce (ofPath path))
    (hvalues : Json.valuesAt path d.source ≠ []) :
    Json.fieldValues (ofPath path).text d.source = Json.valuesAt path d.source := by
  cases hstem : Text.withoutEnding? keywordEnding path with
  | none =>
    have hpaths : ofPath path = ⟨path, path⟩ := by rw [ofPath, hstem]
    rw [hpaths]
    exact Json.fieldValues_eq_valuesAt hvalues
  | some stem =>
    have hpaths : ofPath path = ⟨path, stem ++ textEnding⟩ := by rw [ofPath, hstem]
    obtain rfl := Text.withoutEnding?_eq_some_iff.mp hstem
    have hne : stem ++ textEnding ≠ stem ++ keywordEnding := by
      simp [textEnding, keywordEnding]
    rw [Document.StoresOnce, hpaths] at hd
    rw [hpaths, Json.fieldValues, hd hne, Text.withoutEnding?_eq_some_iff.mpr rfl]
    dsimp only
    cases hkeyword : Json.valuesAt (stem ++ keywordEnding) d.source with
    | nil => exact absurd hkeyword hvalues
    | cons v vs => rfl

theorem Catalog.paths_of_target {c : Catalog} {root : Entity} {name : String} {t : Target}
    (h : c.target root name = .ok t) : t.paths = .ofPath t.paths.exact := by
  simp only [target, bind_eq_ok_iff] at h
  obtain ⟨resolved, -, h⟩ := h
  cases resolved with
  | path path =>
    cases h
    rw [PathPair.exact_ofPath]
  | property p =>
    simp only [pathsFrom, bind_eq_ok_iff, map_eq_ok_iff, pure_eq_ok_iff] at h
    obtain ⟨-, ⟨path, -, rfl⟩, rfl⟩ := h
    rw [PathPair.exact_ofPath]

/-! ### The two operators -/

namespace Predicate

theorem textPasses_beginsWith (text part : String) :
    textPasses (Text.beginsWith · (Text.lower part)) (.string text) =
      (Text.lowerChars part.toList).isPrefixOf (Text.lowerChars text.toList) := by
  simp [textPasses, Json.text?, Text.beginsWith, Text.lower]

theorem textPasses_contains (text part : String) :
    textPasses (Text.contains · (Text.lower part)) (.string text) =
      Text.occursIn (Text.lowerChars part.toList) (Text.lowerChars text.toList) := by
  simp [textPasses, Json.text?, Text.contains, Text.lower]

variable {s : Scope} {name : String} {t : Target}

/-- On a text property both operators compile, whatever the part. -/
theorem ofCondition_parts (hdepth : 1 ≤ s.maxDepth) (ht : s.target name = .ok t)
    (htype : t.type = some .string) (part : String) :
    ofCondition s (.one name (.startsWith part)) = .ok (.beginsWithText t.paths.exact part) ∧
      ofCondition s (.one name (.contains part)) = .ok (.containsText t.paths.text part) := by
  have hrequire : t.require DataType.hasText name (.string part) = .ok () := by
    rw [Target.require, htype]
    rfl
  constructor
  · refine ofCondition_field_eq_ok_iff.mpr ⟨hdepth, t, ht, ?_⟩
    refine Target.predicate_one_eq_ok_iff.mpr
      ⟨.clause (.beginsWithText t.paths.exact part), ?_, rfl⟩
    rw [Target.demands, hrequire, ok_bind]
    rfl
  · refine ofCondition_field_eq_ok_iff.mpr ⟨hdepth, t, ht, ?_⟩
    refine Target.predicate_one_eq_ok_iff.mpr
      ⟨.clause (.containsText t.paths.text part), ?_, rfl⟩
    rw [Target.demands, hrequire, ok_bind]
    rfl

variable {d : Document} {path text part : String} {before after : List Char}

/-- A document is found by the beginning of a text that it stores, if the beginning keeps its ends
of words. -/
theorem accepts_beginsWithText (hd : Json.string text ∈ Json.valuesAt path d.source)
    (htext : text.toList = part.toList ++ after) (h : Text.KeepsWordEnds [] part.toList after) :
    (beginsWithText path part).accepts d = true := by
  rw [accepts_of_leaf (fun _ => rfl) d, anyValue,
    Json.fieldValues_eq_valuesAt (List.ne_nil_of_mem hd)]
  refine List.any_eq_true.mpr ⟨_, hd, ?_⟩
  rw [textPasses_beginsWith, htext]
  exact Text.isPrefixOf_lowerChars_append_iff.mpr h

/-- A document is not found by the beginning of the one text that it stores, if the beginning does
not keep its ends of words. -/
theorem accepts_beginsWithText_eq_false (hd : Json.valuesAt path d.source = [.string text])
    (htext : text.toList = part.toList ++ after) (h : ¬Text.KeepsWordEnds [] part.toList after) :
    (beginsWithText path part).accepts d = false := by
  rw [accepts_of_leaf (fun _ => rfl) d, anyValue, Json.fieldValues_eq_valuesAt (by simp [hd]), hd,
    List.any_cons, List.any_nil, Bool.or_false, textPasses_beginsWith, htext, ← Bool.not_eq_true]
  exact mt Text.isPrefixOf_lowerChars_append_iff.mp h

/-- A document is found by a part of a text that it stores once, if the part keeps its ends of
words. -/
theorem accepts_containsText (hd : Json.string text ∈ Json.valuesAt path d.source)
    (honce : d.StoresOnce (.ofPath path)) (htext : text.toList = before ++ part.toList ++ after)
    (h : Text.KeepsWordEnds before part.toList after) :
    (containsText (PathPair.ofPath path).text part).accepts d = true := by
  rw [accepts_of_leaf (fun _ => rfl) d, anyValue,
    PathPair.fieldValues_text honce (List.ne_nil_of_mem hd)]
  refine List.any_eq_true.mpr ⟨_, hd, ?_⟩
  rw [textPasses_contains, htext]
  exact Text.occursIn_lowerChars_append h

end Predicate

/-- **Parts of a stored text are found if they keep their ends of words.** On a text property the
conditions for the beginning of a text and for a part of it compile. A document that stores a text
for comparison, and nothing apart from it for search, matches the one for every beginning of the
text, and the other for every part of it, in which each capital sigma is the end of a word exactly
if it is the end of a word in the text. A beginning of which this is not so does not find the
document, if the text is all that it stores. Every part without a capital sigma is found. -/
theorem parts_of_texts_found {s : Scope} {name : String} {t : Target} (hdepth : 1 ≤ s.maxDepth)
    (ht : s.target name = .ok t) (htype : t.type = some .string) (part : String) :
    ∃ p q, Predicate.ofCondition s (.one name (.startsWith part)) = .ok p ∧
      Predicate.ofCondition s (.one name (.contains part)) = .ok q ∧
      (∀ d text, Json.string text ∈ Json.valuesAt t.paths.exact d.source →
        (∀ after, text.toList = part.toList ++ after →
          Text.KeepsWordEnds [] part.toList after → p.accepts d = true) ∧
        (d.StoresOnce t.paths → ∀ before after, text.toList = before ++ part.toList ++ after →
          Text.KeepsWordEnds before part.toList after → q.accepts d = true)) ∧
      (∀ d text after, Json.valuesAt t.paths.exact d.source = [.string text] →
        text.toList = part.toList ++ after → ¬Text.KeepsWordEnds [] part.toList after →
          p.accepts d = false) ∧
      ('\u03A3' ∉ part.toList → ∀ before after, Text.KeepsWordEnds before part.toList after) := by
  obtain ⟨root, -, htarget⟩ := bind_eq_ok_iff.mp ht
  have hpaths := Catalog.paths_of_target htarget
  obtain ⟨hp, hq⟩ := Predicate.ofCondition_parts hdepth ht htype part
  refine ⟨_, _, hp, hq, fun d text hd => ⟨fun after htext h => ?_, ?_⟩,
    fun d text after hd htext h => ?_, Text.keepsWordEnds_of_not_mem⟩
  · exact Predicate.accepts_beginsWithText hd htext h
  · intro honce before after htext h
    rw [hpaths] at honce ⊢
    exact Predicate.accepts_containsText hd honce htext h
  · exact Predicate.accepts_beginsWithText_eq_false hd htext h

/-- Streets, whose names are stored once. -/
def streetScope : Scope :=
  ⟨⟨[⟨1, "Street", true, [(Property.field 1 "name" .string).withPath "name_keyword"]⟩], [], 0⟩,
    "Street", 32⟩

/-- The street of a name. -/
def street (name : String) : Document :=
  ⟨0, .object [("name_keyword", .string name)]⟩

/-- The last letters of a word are found in a name, although they end in a capital sigma. -/
theorem street_found_by_last_letters :
    let part := "\u039F\u03A3"
    let text := "\u0391\u039F\u03A3 5"
    streetScope.target "name" = .ok ⟨.ofPath "name_keyword", some .string⟩ ∧
      Json.valuesAt "name_keyword" (street text).source = [.string text] ∧
      (street text).StoresOnce (.ofPath "name_keyword") ∧
      Text.KeepsWordEnds ['\u0391'] part.toList [' ', '5'] ∧
      ∃ q, Predicate.ofCondition streetScope (.one "name" (.contains part)) = .ok q ∧
        q.accepts (street text) = true := by
  intro part text
  have htarget : streetScope.target "name" = .ok ⟨.ofPath "name_keyword", some .string⟩ := rfl
  have hvalues : Json.valuesAt "name_keyword" (street text).source = [.string text] := by
    with_unfolding_all rfl
  have honce : (street text).StoresOnce (.ofPath "name_keyword") := fun _ => by
    with_unfolding_all rfl
  have hkeeps : Text.KeepsWordEnds ['\u0391'] part.toList [' ', '5'] := by decide +kernel
  obtain ⟨_, q, -, hq, hfound, -⟩ := parts_of_texts_found (by decide) htarget rfl part
  refine ⟨htarget, hvalues, honce, hkeeps, q, hq, ?_⟩
  exact (hfound (street text) text (hvalues ▸ List.mem_singleton_self _)).2 honce _ _
    (by decide +kernel) hkeeps

/-- **A part of a word that is not found in it.** The name of a street begins with two letters of
which the second one is a capital sigma, and goes on. It is found by neither operator. -/
theorem part_of_word_unmatched :
    let part := "\u0391\u03A3"
    let text := "\u0391\u03A3\u0399\u0391"
    ∃ p q, Predicate.ofCondition streetScope (.one "name" (.startsWith part)) = .ok p ∧
      Predicate.ofCondition streetScope (.one "name" (.contains part)) = .ok q ∧
      text.toList = part.toList ++ ['\u0399', '\u0391'] ∧
      Json.valuesAt "name_keyword" (street text).source = [.string text] ∧
      Json.valuesAt "name_text" (street text).source = [] ∧
      p.accepts (street text) = false ∧ q.accepts (street text) = false := by
  intro part text
  refine ⟨.beginsWithText "name_keyword" part, .containsText "name_text" part, rfl, rfl,
    by decide +kernel, ?_, ?_, by decide +kernel, by decide +kernel⟩
  · with_unfolding_all rfl
  · with_unfolding_all rfl

end GuardedSearch
