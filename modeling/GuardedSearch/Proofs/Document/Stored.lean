import GuardedSearch.Proofs.Document.Integers
import GuardedSearch.Proofs.Literal.Whole
import GuardedSearch.Proofs.Predicate.Typing
import GuardedSearch.Proofs.Sorting.Order

/-!
# Stored values as operands

A value that a document stores can be asked for: as a literal of a filter it is coerced to the type
of the property, and then the stored value is compared with what it has become. The two ways have
little in common. A number is printed for a text property, and the text is read as a number again
to be compared; a text may be a whole number, a double or an instant, with white space around it;
and whole numbers beyond 53 bits are rounded on one side or on both. Still a stored value is found
by itself, with one exception. A truth value may be asked for in capitals or with white space around
it, but a text that stores one is compared letter by letter.

## Main results

* `Json.equals_of_coerce?` — a value equals the literal that it is coerced to
* `stored_value_matches_itself` — the condition that asks for a stored value
* `boolean_text_unmatched` — a text for a truth value that does not find itself
-/

namespace GuardedSearch

open Double (intPlace)

/-- Only a whole number is one of 64 bits with a sign. -/
theorem Json.Number.eq_whole_of_int64? {n : Number} {i : Int} (h : n.int64? = some i) :
    n = .whole i := by
  cases n with
  | double x => cases h
  | whole j =>
    rw [int64?] at h
    split at h
    · rw [Option.some.inj h]
    · cases h

namespace Literal

/-- A double that is taken for a whole number is what that number is rounded to. This is so of
`2 ^ 63` too, since the number before it is rounded up. -/
theorem place?_of_doubleInt? {x : Double} {n : Int} (h : doubleInt? x = some n) :
    x.place? = some (intPlace n) := by
  obtain ⟨f, rfl, ⟨hvalue, -⟩ | ⟨hvalue, rfl⟩⟩ := doubleInt?_eq_some_iff.mp h
  · have hunits := Double.Finite.value_eq_int_iff.mp hvalue
    have habs : f.units = n.natAbs * unitsPerOne := by
      rw [← f.natAbs_signedUnits, hunits, Int.natAbs_mul, Int.natAbs_natCast]
    have hplace : Double.natPlace n.natAbs = n.natAbs * unitsPerOne :=
      Double.natPlace_of_onGrid (habs ▸ f.representable.2) (habs ▸ f.representable.1.le)
    exact congrArg some (hunits.trans (Double.intPlace_of_natPlace hplace).symm)
  · have hgreatest : intPlace Text.int64Greatest = 2 ^ 63 * unitsPerOne := by decide +kernel
    have hcast : f.value = (2 ^ 63 : Int) := by rw [hvalue]; norm_num
    exact congrArg some ((Double.Finite.value_eq_int_iff.mp hcast).trans hgreatest.symm)

/-- A text that is taken for a whole number is read as the double that the number is rounded to. -/
theorem place?_of_textInt? {s : String} {n : Int} (h : textInt? s = some n) :
    ∃ x, textDouble? s = some x ∧ x.place? = some (intPlace n) := by
  rcases textInt?_eq_some_iff.mp h with hwhole | ⟨-, x, hx, hn⟩
  · have hinteger := (int64?_eq_some_iff.mp hwhole).1
    exact Double.place?_of_written_int (Double.written?_of_integer? hinteger)
  · exact ⟨x, hx, place?_of_doubleInt? hn⟩

/-- A number is a literal of its own, whole if it is one of 64 bits with a sign. -/
theorem ofNumber_cases (n : Json.Number) :
    (∃ i, n = .whole i ∧ n.int64? = some i ∧ ofNumber n = .int i) ∨
      ofNumber n = .double n.toDouble := by
  rw [ofNumber]
  cases hn : n.int64? with
  | none => exact .inr rfl
  | some i => exact .inl ⟨i, Json.Number.eq_whole_of_int64? hn, rfl, rfl⟩

end Literal

namespace Json

variable {v : Json} {l : Literal}

theorem equals_iff {w : Literal} : v.equals w = true ↔ v.compareTo? w = some .eq := by
  rw [equals, beq_iff_eq]

theorem compareTo?_number (n : Number) {w : Literal} (hw : ∀ t, w ≠ .date t) :
    (number n).compareTo? w = w.toDouble?.bind n.toDouble.compare? := by
  rw [compareTo?]
  exact hw

/-- The double that a stored value is compared with a number as. -/
def toDouble? : Json → Option Double
  | number n => some n.toDouble
  | string s => Literal.textDouble? s
  | null | bool _ | array _ | object _ => none

theorem compareTo?_int (v : Json) (m : Int) :
    v.compareTo? (.int m) = v.toDouble?.bind fun x => x.compare? (.ofInt m) := by
  cases v with
  | number n =>
    rw [compareTo?_number n (by simp), Literal.toDouble?, toDouble?, Option.bind_some,
      Option.bind_some]
  | string s => rfl
  | null | bool b | array items | object members => rfl

theorem compareTo?_double (v : Json) (y : Double) :
    v.compareTo? (.double y) = v.toDouble?.bind fun x => x.compare? y := by
  cases v with
  | number n =>
    rw [compareTo?_number n (by simp), Literal.toDouble?, toDouble?, Option.bind_some,
      Option.bind_some]
  | string s => rfl
  | null | bool b | array items | object members => rfl

/-! ### One type after the other -/

/-- What a value is printed as for a text property, it is compared with as a text or as a number. -/
theorem equals_plain (h : Literal.ofJson? v = some l) : v.equals (.string l.plain) = true := by
  rw [equals_iff]
  cases v with
  | null | array items | object members => cases h
  | bool b =>
    obtain rfl := Option.some.inj h
    cases b <;> decide
  | string s =>
    obtain rfl := Option.some.inj h
    exact congrArg some Std.compare_self
  | number n =>
    obtain rfl := Option.some.inj h
    rw [compareTo?_number n (by simp), Literal.toDouble?]
    rcases Literal.ofNumber_cases n with ⟨i, rfl, -, hi⟩ | hn
    · obtain ⟨x, hx, hplace⟩ := Literal.place?_textDouble?_toString i
      rw [hi, Literal.plain, hx, Option.bind_some, Number.toDouble,
        Double.compare?_of_place? (Double.place?_ofInt i) hplace, compare_eq_iff_eq.mpr rfl]
    · rw [hn, Literal.plain, Literal.textDouble?_toPlain, Option.bind_some]
      exact Double.compare?_self n.isSome_place?

/-- What a value is taken for as a whole number, it is rounded to. -/
theorem equals_int (h : Literal.ofJson? v = some l) {m : Int}
    (hm : l.coerce? .int = some (.int m)) : v.equals (.int m) = true := by
  obtain ⟨x, hx, hplace⟩ : ∃ x, v.toDouble? = some x ∧ x.place? = some (intPlace m) := by
    cases v with
    | null | array items | object members => cases h
    | bool b =>
      obtain rfl := Option.some.inj h
      cases hm
    | string s =>
      obtain rfl := Option.some.inj h
      exact Literal.place?_of_textInt? (Literal.coerce?_int_eq_some_iff.2 s |>.mp hm)
    | number n =>
      obtain rfl := Option.some.inj h
      refine ⟨n.toDouble, rfl, ?_⟩
      rcases Literal.ofNumber_cases n with ⟨i, rfl, -, hi⟩ | hn
      · rw [hi] at hm
        obtain rfl : i = m := by simpa [Literal.coerce?] using hm
        exact Double.place?_ofInt i
      · rw [hn, Literal.coerce?_int_eq_some_iff.1] at hm
        exact Literal.place?_of_doubleInt? hm
  rw [equals_iff, compareTo?_int, hx, Option.bind_some,
    Double.compare?_of_place? hplace (Double.place?_ofInt m), compare_eq_iff_eq.mpr rfl]

/-- What a value is taken for as a double, it is read as. -/
theorem equals_double (h : Literal.ofJson? v = some l) {x : Double}
    (hx : l.coerce? .double = some (.double x)) : v.equals (.double x) = true := by
  obtain ⟨hview, hfinite⟩ : l.toDouble? = some x ∧ x.isFinite = true := by
    simpa [Literal.coerce?, Option.filter_eq_some_iff] using hx
  have hv : v.toDouble? = some x := by
    cases v with
    | null | array items | object members => cases h
    | bool b =>
      obtain rfl := Option.some.inj h
      cases hview
    | string s =>
      obtain rfl := Option.some.inj h
      exact hview
    | number n =>
      obtain rfl := Option.some.inj h
      rcases Literal.ofNumber_cases n with ⟨i, rfl, -, hi⟩ | hn
      · rw [hi] at hview
        exact hview
      · rw [hn] at hview
        exact hview
  rw [equals_iff, compareTo?_double, hv, Option.bind_some,
    Double.compare?_self (Double.isSome_place?_of_isFinite hfinite)]

/-- What a value is taken for as an instant, it denotes. -/
theorem equals_date (h : Literal.ofJson? v = some l) {t : Instant}
    (ht : l.coerce? .date = some (.date t)) : v.equals (.date t) = true := by
  have hview : l.toInstant? = some t := by simpa [Literal.coerce?] using ht
  have hv : v.toInstant? = some t := by
    cases v with
    | null | array items | object members => cases h
    | bool b =>
      obtain rfl := Option.some.inj h
      cases hview
    | string s =>
      obtain rfl := Option.some.inj h
      exact hview
    | number n =>
      obtain rfl := Option.some.inj h
      rcases Literal.ofNumber_cases n with ⟨i, -, hi, hn⟩ | hn
      · rw [hn] at hview
        rw [toInstant?, hi]
        exact hview
      · rw [hn] at hview
        cases hview
  rw [equals_iff, compareTo?, hv, Option.map_some, Instant.compare, Std.compare_self,
    Std.compare_self]
  rfl

/-- What a value is taken for as a truth value, it is, unless it is a text that is spelled in
another way. -/
theorem equals_bool_iff (h : Literal.ofJson? v = some l) {b : Bool}
    (hb : l.coerce? .boolean = some (.bool b)) :
    v.equals (.bool b) = true ↔ ∀ s, v = .string s → s = "true" ∨ s = "false" := by
  rw [equals_iff]
  cases v with
  | null | array items | object members => cases h
  | number n =>
    obtain rfl := Option.some.inj h
    rcases Literal.ofNumber_cases n with ⟨i, -, -, hn⟩ | hn
    · rw [hn] at hb
      cases hb
    · rw [hn] at hb
      cases hb
  | bool c =>
    obtain rfl := Option.some.inj h
    obtain rfl : c = b := by simpa [Literal.coerce?] using hb
    exact iff_of_true (congrArg some Std.compare_self) (by simp)
  | string s =>
    obtain rfl := Option.some.inj h
    have hread : Literal.textBool? s = some b := by simpa [Literal.coerce?] using hb
    simp only [string.injEq, forall_eq']
    by_cases htrue : s = "true"
    · subst htrue
      obtain rfl : true = b := Option.some.inj (hread.symm.trans (by decide +kernel)).symm
      exact iff_of_true rfl (.inl rfl)
    · by_cases hfalse : s = "false"
      · subst hfalse
        obtain rfl : false = b := Option.some.inj (hread.symm.trans (by decide +kernel)).symm
        exact iff_of_true rfl (.inr rfl)
      · have hnone : Text.bool? s = none := by
          rw [Text.bool?]
          exacts [htrue, hfalse]
        refine iff_of_false ?_ (by simp [htrue, hfalse])
        rw [compareTo?, hnone, Option.map_none]
        exact (Option.some_ne_none _).symm

/-- **A value equals the literal that it is coerced to**, unless it is a text for a truth value that
is not spelled as one is printed. -/
theorem equals_of_coerce? {type : DataType} {w : Literal} (h : Literal.ofJson? v = some l)
    (hw : l.coerce? type = some w) :
    v.equals w = true ↔
      (type = .boolean → ∀ s, v = .string s → s = "true" ∨ s = "false") := by
  have htype := Literal.hasType_of_coerce? hw
  cases htype with
  | string s =>
    obtain rfl : l.plain = s := by simpa [Literal.coerce?] using hw
    exact iff_of_true (equals_plain h) fun hbool => absurd hbool (by decide)
  | int m => exact iff_of_true (equals_int h hw) fun hbool => absurd hbool (by decide)
  | double finite => exact iff_of_true (equals_double h hw) fun hbool => absurd hbool (by decide)
  | date t => exact iff_of_true (equals_date h hw) fun hbool => absurd hbool (by decide)
  | boolean b =>
    rw [equals_bool_iff h hw]
    exact ⟨fun hs _ => hs, fun hs => hs rfl⟩

end Json

/-! ### Conditions -/

/-- **A stored value matches itself.** Let a value be one that a filter may give for a property: it
is a single value, and the literal that it is can be coerced to the property's type. Then the
condition that asks for this literal compiles, and every document that stores the value, alone or
among others, matches it. Only a text for a truth value that is not spelled `true` or `false`, but
in capitals or with white space around it, is not found by itself. -/
theorem stored_value_matches_itself {s : Scope} {name : String} {t : Target} {type : DataType}
    {v : Json} {l w : Literal} (hdepth : 1 ≤ s.maxDepth) (ht : s.target name = .ok t)
    (htype : t.type = some type) (hl : Literal.ofJson? v = some l)
    (hw : l.coerce? type = some w) :
    ∃ p, Predicate.ofCondition s (.one name (.eq l)) = .ok p ∧
      ((type = .boolean → ∀ text, v = .string text → text = "true" ∨ text = "false") →
        ∀ d, v ∈ Json.valuesAt t.paths.exact d.source → p.accepts d = true) ∧
      ∀ text, type = .boolean → v = .string text → text ≠ "true" → text ≠ "false" →
        ∀ d, Json.valuesAt t.paths.exact d.source = [v] → p.accepts d = false := by
  have hop : Operator.Compares (.eq l) := trivial
  have hoperand : ∀ l' ∈ Operator.operands (.eq l), ∃ w', l'.coerce? type = some w' :=
    List.forall_mem_singleton.mpr ⟨w, hw⟩
  obtain ⟨p, hp⟩ : ∃ p, t.predicate name [.eq l] = .ok p :=
    Target.exists_predicate_of_compares hop htype nofun hoperand
  have hpasses : ∀ u : Json, t.passes name u (.eq l) = u.equals w := fun u =>
    Target.operandPasses_of_coerce (Target.coerce_of_type htype hw) _
  refine ⟨p, Predicate.ofCondition_field_eq_ok_iff.mpr ⟨hdepth, t, ht, hp⟩,
    fun hspelled d hd => ?_, fun text hbool hv htrue hfalse d hd => ?_⟩
  · rw [Target.accepts_iff_exists_passes hop hp,
      Json.fieldValues_eq_valuesAt (List.ne_nil_of_mem hd)]
    exact ⟨v, hd, (hpasses v).trans ((Json.equals_of_coerce? hl hw).mpr hspelled)⟩
  · rw [← Bool.not_eq_true, Target.accepts_iff_passes hop hp hd, hpasses,
      Json.equals_of_coerce? hl hw]
    intro hspelled
    rcases hspelled hbool text hv with h | h
    · exact htrue h
    · exact hfalse h

/-- A budget that is stored as a text is found by this text. -/
theorem stored_text_matches_itself :
    Literal.coerce? .int (.string " 1.2e1 ") = some (.int 12) ∧
      ∃ p, Predicate.ofCondition budgetScope (.one "budget" (.eq (.string " 1.2e1 "))) = .ok p ∧
        p.accepts ⟨0, .object [("budget", .string " 1.2e1 ")]⟩ = true := by
  have hcoerce : Literal.coerce? .int (.string " 1.2e1 ") = some (.int 12) := by decide +kernel
  have htarget : budgetScope.target "budget" = .ok ⟨⟨"budget", "budget"⟩, some .int⟩ := rfl
  obtain ⟨p, hp, hmatches, -⟩ :=
    stored_value_matches_itself (v := .string " 1.2e1 ") (by decide) htarget rfl rfl hcoerce
  exact ⟨hcoerce, p, hp, hmatches nofun ⟨0, .object [("budget", .string " 1.2e1 ")]⟩
    (List.mem_singleton_self _)⟩

/-- **A text for a truth value that does not find itself.** -/
theorem boolean_text_unmatched :
    let s : Scope := ⟨(projectCatalog [.field 2 "done" .boolean]).withoutRules, "Project", 32⟩
    Literal.ofJson? (.string "TRUE") = some (.string "TRUE") ∧
      Literal.coerce? .boolean (.string "TRUE") = some (.bool true) ∧
      ∃ p, Predicate.ofCondition s (.one "done" (.eq (.string "TRUE"))) = .ok p ∧
        p.accepts ⟨0, .object [("done", .string "TRUE")]⟩ = false :=
  ⟨rfl, by decide +kernel, .term "done" (.bool true), rfl, by decide +kernel⟩

end GuardedSearch
