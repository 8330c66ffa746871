import GuardedSearch.Proofs.Condition.TextParts

/-!
# Texts that are stored once

The path for search is made from the path for comparison, by another ending. Where a document has
nothing at the path for search, the values are looked for by undoing this: at the path for
comparison, and then at the path without either ending. Both steps know a path by its ending only,
and one ending cannot be taken for the other. So the path that is come back to is the path that the
other one was made from, however often endings occur in it, and a document that stores a text for
comparison need not store it again.

## Main definitions

* `Json.FoundAt` — a value is found at a path, or stands in for what is not there

## Main results

* `Json.mem_fieldValues_iff` — the values that are read are those that are found
* `PathPair.fieldValues_text_ofPath` — what is read for search if nothing is stored for it
* `searched_if_stored_once` — both operators on texts see the texts that are stored for comparison
-/

namespace GuardedSearch

/-! ### What stands in for values -/

/-- The value is at the path. Or nothing is there, the path is one for search, and the value is at
the path for comparison or, where that has none either, at the path without an ending. -/
inductive Json.FoundAt (source : Json) : String → Json → Prop
  | there {path : String} {v : Json} (hv : v ∈ valuesAt path source) : FoundAt source path v
  | forComparison {stem : String} {v : Json}
      (hnone : valuesAt (stem ++ PathPair.textEnding) source = [])
      (hv : v ∈ valuesAt (stem ++ PathPair.keywordEnding) source) :
      FoundAt source (stem ++ PathPair.textEnding) v
  | bare {stem : String} {v : Json}
      (hnone : valuesAt (stem ++ PathPair.textEnding) source = [])
      (hnone' : valuesAt (stem ++ PathPair.keywordEnding) source = [])
      (hv : v ∈ valuesAt stem source) : FoundAt source (stem ++ PathPair.textEnding) v

namespace Json

variable {source v : Json} {path stem : String}

/-- What is read for search if nothing is there. -/
theorem fieldValues_text (h : valuesAt (stem ++ PathPair.textEnding) source = []) :
    fieldValues (stem ++ PathPair.textEnding) source =
      match valuesAt (stem ++ PathPair.keywordEnding) source with
      | [] => valuesAt stem source
      | values => values := by
  have hstem := Text.withoutEnding?_eq_some_iff.mpr (rfl : stem ++ PathPair.textEnding = _)
  cases hkeyword : valuesAt (stem ++ PathPair.keywordEnding) source with
  | nil => simp only [fieldValues, h, hstem, hkeyword]
  | cons v values => simp only [fieldValues, h, hstem, hkeyword]

/-- Nothing stands in for values at a path that is not one for search. -/
theorem fieldValues_of_withoutEnding? (h : Text.withoutEnding? PathPair.textEnding path = none) :
    fieldValues path source = valuesAt path source := by
  rw [fieldValues, h]
  cases valuesAt path source <;> rfl

/-- **The values that are read are those that are found.** -/
theorem mem_fieldValues_iff : v ∈ fieldValues path source ↔ source.FoundAt path v := by
  constructor
  · intro h
    by_cases hvalues : valuesAt path source = []
    · cases hstem : Text.withoutEnding? PathPair.textEnding path with
      | none =>
        rw [fieldValues_of_withoutEnding? hstem] at h
        exact .there h
      | some stem =>
        obtain rfl := Text.withoutEnding?_eq_some_iff.mp hstem
        rw [fieldValues_text hvalues] at h
        split at h
        case h_1 hnone => exact .bare hvalues hnone h
        case h_2 => exact .forComparison hvalues h
    · rw [fieldValues_eq_valuesAt hvalues] at h
      exact .there h
  · intro h
    cases h with
    | there hv => rwa [fieldValues_eq_valuesAt (List.ne_nil_of_mem hv)]
    | forComparison hnone hv =>
      rw [fieldValues_text hnone]
      split
      case h_1 hnil => exact absurd hnil (List.ne_nil_of_mem hv)
      case h_2 => exact hv
    | bare hnone hnone' hv => rwa [fieldValues_text hnone, hnone']

end Json

/-! ### Paths that come back -/

namespace PathPair

/-- A path for comparison is not one for search. -/
theorem withoutEnding?_textEnding (stem : String) :
    Text.withoutEnding? textEnding (stem ++ keywordEnding) = none := by
  rw [Option.eq_none_iff_forall_not_mem]
  intro other h
  have hsame := Text.withoutEnding?_eq_some_iff.mp (Option.mem_def.mp h)
  have hlast := congrArg (fun s : String => s.toList.getLast?) hsame
  simp [keywordEnding, textEnding] at hlast

theorem ofPath_keywordEnding (stem : String) :
    ofPath (stem ++ keywordEnding) = ⟨stem ++ keywordEnding, stem ++ textEnding⟩ := by
  rw [ofPath, Text.withoutEnding?_eq_some_iff.mpr rfl]

variable {path stem : String} {d : Document}

/-- **What is read for search if nothing is stored for it**: the values for comparison, or those at
the path without an ending where there are none for comparison. -/
theorem fieldValues_text_ofPath (hpath : path = stem ++ keywordEnding)
    (hnone : Json.valuesAt (ofPath path).text d.source = []) :
    (Json.valuesAt path d.source ≠ [] →
      Json.fieldValues (ofPath path).text d.source = Json.valuesAt path d.source) ∧
    (Json.valuesAt path d.source = [] →
      Json.fieldValues (ofPath path).text d.source = Json.valuesAt stem d.source) := by
  refine ⟨fieldValues_text fun _ => hnone, fun hvalues => ?_⟩
  subst hpath
  rw [ofPath_keywordEnding] at hnone ⊢
  rw [Json.fieldValues_text hnone, hvalues]

/-- What is read for comparison is read for search, if texts are stored once. -/
theorem mem_fieldValues_text (honce : d.StoresOnce (ofPath path)) {v : Json}
    (h : v ∈ Json.fieldValues path d.source) :
    v ∈ Json.fieldValues (ofPath path).text d.source := by
  cases hstem : Text.withoutEnding? keywordEnding path with
  | none =>
    have hpaths : ofPath path = ⟨path, path⟩ := by rw [ofPath, hstem]
    rwa [hpaths]
  | some stem =>
    obtain rfl := Text.withoutEnding?_eq_some_iff.mp hstem
    rw [Json.fieldValues_of_withoutEnding? (withoutEnding?_textEnding stem)] at h
    rwa [fieldValues_text honce (List.ne_nil_of_mem h)]

end PathPair

/-! ### Both operators -/

/-- A document that is found by the beginning of a text is found by it as a part of the text, if it
stores its texts once. -/
theorem Predicate.accepts_containsText_of_beginsWithText {path part : String} {d : Document}
    (honce : d.StoresOnce (.ofPath path)) (h : (beginsWithText path part).accepts d = true) :
    (containsText (PathPair.ofPath path).text part).accepts d = true := by
  rw [accepts_of_leaf (fun _ => rfl) d, anyValue, List.any_eq_true] at h ⊢
  obtain ⟨v, hv, hbegins⟩ := h
  refine ⟨v, PathPair.mem_fieldValues_text honce hv, ?_⟩
  obtain ⟨text, htext, hbegins⟩ := (Option.any_eq_true _ _).mp hbegins
  exact (Option.any_eq_true _ _).mpr ⟨text, htext, Text.contains_of_beginsWith hbegins⟩

/-- **Texts that are stored for comparison are searched.** If a document has nothing at the path for
search that a path for comparison gives, then what is read for search is exactly what the path for
comparison has, or what the path without the ending has, if the one for comparison has nothing. So
on a text property, whose conditions for the beginning of a text and for a part of it both compile,
the documents of a list that match the first one match the second one with the same operand, as far
as they store no texts apart for search. -/
theorem searched_if_stored_once :
    (∀ (path stem : String) (d : Document), path = stem ++ PathPair.keywordEnding →
      Json.valuesAt (PathPair.ofPath path).text d.source = [] →
        (Json.valuesAt path d.source ≠ [] →
          Json.fieldValues (PathPair.ofPath path).text d.source = Json.valuesAt path d.source) ∧
        (Json.valuesAt path d.source = [] →
          Json.fieldValues (PathPair.ofPath path).text d.source = Json.valuesAt stem d.source)) ∧
    ∀ (s : Scope) (name : String) (t : Target), 1 ≤ s.maxDepth → s.target name = .ok t →
      t.type = some .string → ∀ part,
        ∃ p q, Predicate.ofCondition s (.one name (.startsWith part)) = .ok p ∧
          Predicate.ofCondition s (.one name (.contains part)) = .ok q ∧
          ∀ docs, ∀ d ∈ p.matching docs, d.StoresOnce t.paths → d ∈ q.matching docs := by
  refine ⟨fun path stem d => PathPair.fieldValues_text_ofPath, ?_⟩
  intro s name t hdepth ht htype part
  obtain ⟨root, -, htarget⟩ := bind_eq_ok_iff.mp ht
  have hpaths := Catalog.paths_of_target htarget
  obtain ⟨hp, hq⟩ := Predicate.ofCondition_parts hdepth ht htype part
  refine ⟨_, _, hp, hq, fun docs d hd honce => ?_⟩
  rw [Predicate.matching_eq_filter, List.mem_filter] at hd ⊢
  rw [hpaths] at honce ⊢
  exact ⟨hd.1, Predicate.accepts_containsText_of_beginsWithText honce hd.2⟩

/-- A path with the same ending twice is come back to from its path for search, and a street is
found by a part of its name, because it is found by the beginning. -/
theorem searched_if_stored_once_street :
    let path := "author.name_keyword_keyword"
    let book : Document := ⟨0, .object [("author", .object [("name_keyword", .string "Ann")])]⟩
    let main := street "Main Road"
    (Json.valuesAt (PathPair.ofPath path).text book.source = [] ∧
      Json.valuesAt path book.source = [] ∧
      Json.fieldValues (PathPair.ofPath path).text book.source = [.string "Ann"]) ∧
    streetScope.target "name" = .ok ⟨.ofPath "name_keyword", some .string⟩ ∧
      main.StoresOnce (.ofPath "name_keyword") ∧
      main ∈ (Predicate.beginsWithText "name_keyword" "mAIN").matching [street "Mill", main] ∧
      ∃ q, Predicate.ofCondition streetScope (.one "name" (.contains "mAIN")) = .ok q ∧
        main ∈ q.matching [street "Mill", main] := by
  intro path book main
  have hnone : Json.valuesAt (PathPair.ofPath path).text book.source = [] := by decide +kernel
  have hnone' : Json.valuesAt path book.source = [] := by decide +kernel
  have htarget : streetScope.target "name" = .ok ⟨.ofPath "name_keyword", some .string⟩ := rfl
  have honce : main.StoresOnce (.ofPath "name_keyword") := fun _ => by decide +kernel
  have hmain : main ∈ (Predicate.beginsWithText "name_keyword" "mAIN").matching
      [street "Mill", main] := by
    rw [Predicate.matching_eq_filter, List.mem_filter]
    exact ⟨by simp, by decide +kernel⟩
  obtain ⟨hread, hfound⟩ := searched_if_stored_once
  obtain ⟨p, q, hp, hq, hmatching⟩ :=
    hfound streetScope "name" _ (by decide) htarget rfl "mAIN"
  cases hp
  refine ⟨⟨hnone, hnone', ?_⟩, htarget, honce, hmain, q, hq, hmatching _ main hmain honce⟩
  rw [(hread path "author.name_keyword" book rfl hnone).2 hnone']
  with_unfolding_all rfl

end GuardedSearch
