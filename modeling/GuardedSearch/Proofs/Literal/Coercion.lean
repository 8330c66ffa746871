import GuardedSearch.Literal
import Mathlib.Data.List.TakeWhile

/-!
# Coercion

What a literal is coerced to is a value of the type that was asked for, and such values are what
coercion leaves alone. So it makes no difference whether a literal is coerced once or several times.

A text may be read as a whole number, as a double, as a truth value or as an instant, by different
readers. All of them begin by taking off the white space around the text. That is why a text means
the same with white space around it as without, or nothing in both cases, unless it is to be a text.

## Main definitions

* `Literal.HasType` — the values of a type

## Main results

* `Literal.coerce?_eq_self_iff` — what coercion leaves alone
* `Literal.coerce?_string_congr` — what a text stands for is decided by the text without white space
* `Literal.coercion_stable` — coercing again, and coercing with white space around
-/

namespace GuardedSearch

namespace Text

/-- White space around a text is what trimming removes, however much there is. -/
theorem trimChars_append_blank {before after : List Char} (cs : List Char)
    (hbefore : ∀ c ∈ before, isBlank c = true) (hafter : ∀ c ∈ after, isBlank c = true) :
    trimChars (before ++ cs ++ after) = trimChars cs := by
  have hnone : after.dropWhile isBlank = [] := List.dropWhile_eq_nil_iff.mpr hafter
  have hreverse : ∀ c ∈ after.reverse, isBlank c = true := by
    intro c hc
    exact hafter c (List.mem_reverse.mp hc)
  rw [trimChars, trimChars, List.append_assoc, List.dropWhile_append_of_pos hbefore,
    List.dropWhile_append]
  by_cases hblank : (cs.dropWhile isBlank).isEmpty = true
  · -- if there is nothing but white space, it all goes from the front
    rw [if_pos hblank, hnone, List.isEmpty_iff.mp hblank]
  · rw [if_neg hblank, List.reverse_append, List.dropWhile_append_of_pos hreverse]

end Text

namespace Literal

variable {type : DataType} {l v : Literal}

/-! ### Values of a type -/

/-- The literal is a value of the type. No value has the type `entity`, and doubles that are not
finite have no type. -/
inductive HasType : DataType → Literal → Prop
  | string (s : String) : HasType .string (.string s)
  | int (n : Int) : HasType .int (.int n)
  | double {x : Double} (finite : x.isFinite = true) : HasType .double (.double x)
  | boolean (b : Bool) : HasType .boolean (.bool b)
  | date (t : Instant) : HasType .date (.date t)

theorem hasType_of_coerce? (h : l.coerce? type = some v) : v.HasType type := by
  cases type with
  | string =>
    cases h
    exact .string _
  | int =>
    cases l with
    | int n =>
      cases h
      exact .int n
    | double | string =>
      obtain ⟨n, -, rfl⟩ := Option.map_eq_some_iff.mp h
      exact .int n
    | bool | date => cases h
  | double =>
    obtain ⟨x, hx, rfl⟩ := Option.map_eq_some_iff.mp h
    exact .double (Option.filter_eq_some_iff.mp hx).2
  | boolean =>
    cases l with
    | bool b =>
      cases h
      exact .boolean b
    | string =>
      obtain ⟨b, -, rfl⟩ := Option.map_eq_some_iff.mp h
      exact .boolean b
    | int | double | date => cases h
  | date =>
    obtain ⟨t, -, rfl⟩ := Option.map_eq_some_iff.mp h
    exact .date t
  | entity => cases h

/-- **Coercion leaves alone the values of the type**, and nothing else. -/
theorem coerce?_eq_self_iff : v.coerce? type = some v ↔ v.HasType type := by
  refine ⟨hasType_of_coerce?, fun h => ?_⟩
  cases h with
  | string | int | boolean | date => rfl
  | double finite => simp [coerce?, toDouble?, finite]

theorem coerce_eq_ok_iff {field : String} :
    l.coerce type field = .ok v ↔ l.coerce? type = some v := by
  rw [coerce]
  cases l.coerce? type with
  | none => simp
  | some u => simp

/-! ### White space -/

/-- All readers of texts look at the trimmed text only. -/
theorem coerce?_string_congr {s t : String} (htype : type ≠ .string)
    (h : Text.trimChars s.toList = Text.trimChars t.toList) :
    (string s).coerce? type = (string t).coerce? type := by
  cases type with
  | string => exact absurd rfl htype
  | int =>
    show (textInt? s).map int = (textInt? t).map int
    rw [textInt?, textInt?, textDouble?, textDouble?, h]
  | double =>
    show ((textDouble? s).filter Double.isFinite).map double =
      ((textDouble? t).filter Double.isFinite).map double
    rw [textDouble?, textDouble?, h]
  | boolean =>
    show (textBool? s).map bool = (textBool? t).map bool
    rw [textBool?, textBool?, h]
  | date =>
    show (Instant.ofText? s).map date = (Instant.ofText? t).map date
    rw [Instant.ofText?, Instant.ofText?, h]
  | entity => rfl

/-- **Coercion is stable.** What a literal was coerced to is coerced to itself. And a text stands
for the same value of a type other than `string` with white space around it as without it, or for
none in both cases. -/
theorem coercion_stable (type : DataType) (field : String) :
    (∀ l v, coerce type field l = .ok v → coerce type field v = .ok v) ∧
    ∀ s before after : String, (∀ c ∈ before.toList, Text.isBlank c = true) →
      (∀ c ∈ after.toList, Text.isBlank c = true) → type ≠ .string →
      ∀ v, coerce type field (string (before ++ s ++ after)) = .ok v ↔
        coerce type field (string s) = .ok v := by
  constructor
  · intro l v h
    rw [coerce_eq_ok_iff] at h ⊢
    exact coerce?_eq_self_iff.mpr (hasType_of_coerce? h)
  · intro s before after hbefore hafter htype v
    have htrim : Text.trimChars (before ++ s ++ after).toList = Text.trimChars s.toList := by
      rw [String.toList_append, String.toList_append]
      exact Text.trimChars_append_blank s.toList hbefore hafter
    rw [coerce_eq_ok_iff, coerce_eq_ok_iff, coerce?_string_congr htype htrim]

/-- A date between an ideographic space and a line feed is midnight of that day. -/
theorem coercion_stable_leap_day :
    let midnight := date ⟨1709164800, 0⟩
    coerce .date "due" (string "2024-02-29") = .ok midnight ∧
      coerce .date "due" midnight = .ok midnight ∧
      coerce .date "due" (string ("\u3000" ++ "2024-02-29" ++ "\n")) = .ok midnight := by
  intro midnight
  obtain ⟨hagain, hspace⟩ := coercion_stable .date "due"
  have hread : coerce .date "due" (string "2024-02-29") = .ok midnight :=
    coerce_eq_ok_iff.mpr (by decide +kernel)
  exact ⟨hread, hagain _ _ hread,
    (hspace "2024-02-29" "\u3000" "\n" (List.forall_mem_singleton.mpr rfl)
      (List.forall_mem_singleton.mpr rfl) (by decide) _).mpr hread⟩

end Literal

end GuardedSearch
