import GuardedSearch.Json.Printer
import GuardedSearch.Proofs.Json.Induction
import GuardedSearch.Proofs.Json.Texts
import Mathlib.Tactic.IntervalCases

/-!
# Reading what was printed

What is printed for a value is read as this value again, in the compact and in the indented form. A
printed string is read character by character, an array item by item; so the reader is described by
what it does with the text of a part, whatever is around it.

A number is the exception. It is complete only with the character behind it, and a state in which a
number is under way is not the state behind the number. `Reader.endNumber` is the state that it
would be if the text ended there, and no character that can follow a number tells the two apart.

Numbers are read as whole ones if they fit 64 bits, so this is said of values with such numbers.
Doubles, which are printed to the shortest digits, are left out.

## Main definitions

* `Reader.Reads` — a text is read as a tree wherever a value must follow
* `Json.Whole` — all numbers in a value are whole and fit 64 bits

## Main results

* `Reader.reads_string`, `Reader.reads_whole` — strings and numbers
* `Reader.Reads.array`, `Reader.Reads.object` — items and members with blanks between them
* `JsonText.read_toCompact`, `JsonText.read_toIndented` — whole texts
-/

namespace GuardedSearch

namespace Reader

/-! ### Between tokens -/

/-- Nothing is under way that a character between tokens could be part of. -/
def Mode.isBetween : Mode → Bool
  | .value | .firstItem | .nextItem | .firstName | .nextName | .colon | .afterItem | .afterMember
  | .finished _ => true
  | .text _ _ | .number _ _ | .word _ _ | .stopped _ _ => false

/-- A value must follow, or may follow. -/
inductive Mode.WantsValue : Mode → Prop
  | value : WantsValue .value
  | firstItem : WantsValue .firstItem
  | nextItem : WantsValue .nextItem

/-- All characters may stand between tokens. -/
def Blank (cs : List Char) : Prop :=
  ∀ c ∈ cs, isSpace c = true

variable {frames : List Frame} {mode : Mode} {r : Reader} {c : Char} {cs : List Char}

theorem step_of_isBetween (h : mode.isBetween = true) (c : Char) :
    step ⟨frames, mode⟩ c = stepBetween frames mode c := by
  cases mode <;> first | rfl | cases h

theorem stepBetween_of_isSpace (hc : isSpace c = true) :
    stepBetween frames mode c = ⟨frames, mode⟩ :=
  if_pos hc

theorem foldl_step_blank (hcs : Blank cs) (h : mode.isBetween = true) :
    cs.foldl step ⟨frames, mode⟩ = ⟨frames, mode⟩ := by
  induction cs with
  | nil => rfl
  | cons c cs ih =>
    obtain ⟨hc, hcs⟩ := List.forall_mem_cons.mp hcs
    rw [List.foldl_cons, step_of_isBetween h, stepBetween_of_isSpace hc, ih hcs]

theorem step_eq_beginValue (h : mode.WantsValue) (hspace : isSpace c = false) (hend : c ≠ ']') :
    step ⟨frames, mode⟩ c = beginValue frames c := by
  cases h <;> simp [step, stepBetween, hspace, hend]

theorem isBetween_put (v : Raw) (frames : List Frame) :
    (put v frames).mode.isBetween = true := by
  rcases frames with _ | ⟨_ | ⟨_, _ | _⟩, _⟩ <;> rfl

/-! ### The end of a number -/

theorem endNumber_of_isBetween (h : r.mode.isBetween = true) : r.endNumber = r := by
  obtain ⟨frames, mode⟩ := r
  cases mode <;> first | rfl | cases h

/-- **A character that can follow a number does not see whether it has ended.** -/
theorem step_endNumber (hdigit : c.isDigit = false) (hpoint : c ≠ '.')
    (hexponent : ¬(c = 'e' ∨ c = 'E')) (r : Reader) : step r.endNumber c = step r c := by
  obtain ⟨frames, mode⟩ := r
  cases mode with
  | number chars phase =>
    cases hphase : phase.isComplete with
    | false => rw [endNumber]; simp [hphase]
    | true =>
      have hended : numberStep phase c = .ended := by
        cases phase with
        | minus | point | exponent | exponentSign => cases hphase
        | zero | whole | fraction | exponentDigits =>
          simp [numberStep, hdigit, hpoint, hexponent]
      have hend : endNumber ⟨frames, .number chars phase⟩ =
          put (numberValue chars.reverse) frames := if_pos hphase
      have hstep : step ⟨frames, .number chars phase⟩ c =
          stepBetween (put (numberValue chars.reverse) frames).frames
            (put (numberValue chars.reverse) frames).mode c := by
        dsimp only [step]
        rw [hended]
      rw [hend, hstep]
      exact step_of_isBetween (isBetween_put _ _) c
  | _ => rfl

theorem step_endNumber_of_isSpace (hc : isSpace c = true) (r : Reader) :
    step r.endNumber c = step r c := by
  have hcases : c = ' ' ∨ c = '\n' ∨ c = '\t' ∨ c = '\r' := by simpa [isSpace] using hc
  refine step_endNumber ?_ ?_ ?_ r
  · rcases hcases with rfl | rfl | rfl | rfl <;> rfl
  · rcases hcases with rfl | rfl | rfl | rfl <;> decide
  · rcases hcases with rfl | rfl | rfl | rfl <;> decide

/-- Blanks may follow a value, whether or not it is a number that they end. -/
theorem endNumber_foldl_blank (hcs : Blank cs) (h : r.endNumber.mode.isBetween = true) :
    (cs.foldl step r).endNumber = r.endNumber := by
  cases cs with
  | nil => rfl
  | cons c cs =>
    obtain ⟨hc, hcs⟩ := List.forall_mem_cons.mp hcs
    have hstep : step r c = r.endNumber := by
      rw [← step_endNumber_of_isSpace hc, step_of_isBetween h, stepBetween_of_isSpace hc]
    rw [List.foldl_cons, hstep, foldl_step_blank hcs h, endNumber_of_isBetween h]

/-! ### Values -/

/-- Wherever a value must follow, the text is read as the tree. -/
def Reads (cs : List Char) (v : Raw) : Prop :=
  ∀ frames mode, mode.WantsValue → (cs.foldl step ⟨frames, mode⟩).endNumber = put v frames

theorem reads_null : Reads "null".toList .null := by
  intro frames mode hmode
  cases hmode <;> exact endNumber_of_isBetween (isBetween_put .null frames)

theorem reads_bool (b : Bool) : Reads (Json.boolText b).toList (.bool b) := by
  intro frames mode hmode
  cases b <;> cases hmode <;> exact endNumber_of_isBetween (isBetween_put (.bool _) frames)

/-! #### Strings -/

/-- The last digits of a control character's escape have its number. -/
theorem hexValue?_hexPair {n : Nat} (h : n < 0x20) :
    hexValue? (Nat.digitChar (n / 16)) = some (n / 16) ∧
      hexValue? (Nat.digitChar (n % 16)) = some (n % 16) ∧
      (Nat.digitChar (n / 16)).utf8Size = 1 ∧ (Nat.digitChar (n % 16)).utf8Size = 1 := by
  revert h n
  decide

/-- The escape of a control character by its number is read as the character. -/
theorem foldl_step_control (frames : List Frame) (isName : Bool) (chars : List Char) {c : Char}
    (hc : c.toNat < 0x20) :
    (['\\', 'u', '0', '0'] ++ Json.hexPair c.toNat).foldl step
        ⟨frames, .text isName ⟨chars, .outside, none⟩⟩ =
      ⟨frames, .text isName ⟨c :: chars, .outside, none⟩⟩ := by
  obtain ⟨hfirst, hsecond, hsize, hsize'⟩ := hexValue?_hexPair hc
  have hzeros : ['\\', 'u', '0', '0'].foldl step ⟨frames, .text isName ⟨chars, .outside, none⟩⟩ =
      ⟨frames, .text isName ⟨chars, .hex 2 (some 0) none, none⟩⟩ := rfl
  have hthird : stringStep ⟨chars, .hex 2 (some 0) none, none⟩ (Nat.digitChar (c.toNat / 16)) =
      .goOn ⟨chars, .hex 3 (some (c.toNat / 16)) none, none⟩ := by
    simp [stringStep, hfirst, hsize]
  have hcode : Scan.code ⟨chars, .hex 3 (some (c.toNat / 16)) none, none⟩ c.toNat none =
      ⟨c :: chars, .outside, none⟩ := by
    rw [Scan.code, if_neg (by omega), if_neg (by omega), Char.ofNat_toNat, Scan.push]
  have hlast : stringStep ⟨chars, .hex 3 (some (c.toNat / 16)) none, none⟩
      (Nat.digitChar (c.toNat % 16)) = .goOn ⟨c :: chars, .outside, none⟩ := by
    rw [← hcode]
    simp [stringStep, hsecond, hsize', Nat.div_add_mod']
  rw [List.foldl_append, hzeros, Json.hexPair]
  simp only [List.foldl_cons, List.foldl_nil, step, hthird, hlast]

/-- **A printed character is read as this character.** -/
theorem foldl_step_escape (frames : List Frame) (isName : Bool) (chars : List Char) (c : Char) :
    (Json.escape c).foldl step ⟨frames, .text isName ⟨chars, .outside, none⟩⟩ =
      ⟨frames, .text isName ⟨c :: chars, .outside, none⟩⟩ := by
  by_cases hletter : c ∈ ['"', '\\', '\n', '\r', '\t', '\x08', '\x0c']
  · simp only [List.mem_cons, List.not_mem_nil, or_false] at hletter
    rcases hletter with rfl | rfl | rfl | rfl | rfl | rfl | rfl <;> rfl
  · simp only [List.mem_cons, List.not_mem_nil, or_false, not_or] at hletter
    obtain ⟨hquote, hbackslash, hn, hr, ht, hb, hf⟩ := hletter
    simp only [Json.escape, if_neg hquote, if_neg hbackslash, if_neg hn, if_neg hr, if_neg ht,
      if_neg hb, if_neg hf]
    by_cases hcontrol : c.toNat < 0x20
    · rw [if_pos hcontrol]
      exact foldl_step_control frames isName chars hcontrol
    · rw [if_neg hcontrol]
      simp [step, stringStep, plainStep, hquote, hbackslash, hcontrol, Scan.push]

theorem foldl_step_escapes (frames : List Frame) (isName : Bool) (cs chars : List Char) :
    (cs.flatMap Json.escape).foldl step ⟨frames, .text isName ⟨chars, .outside, none⟩⟩ =
      ⟨frames, .text isName ⟨cs.reverse ++ chars, .outside, none⟩⟩ := by
  induction cs generalizing chars with
  | nil => rfl
  | cons c cs ih =>
    rw [List.flatMap_cons, List.foldl_append, foldl_step_escape, ih, List.reverse_cons,
      List.append_assoc, List.singleton_append]

/-- The text behind the quote that begins a string. -/
theorem foldl_step_quoted (frames : List Frame) (isName : Bool) (s : String) :
    (s.toList.flatMap Json.escape ++ ['"']).foldl step ⟨frames, beginText isName⟩ =
      if isName then putName (.ok s) frames else put (.string s) frames := by
  have hresult : Scan.result ⟨s.toList.reverse, .outside, none⟩ = .ok s := by
    simp [Scan.result]
  rw [beginText, List.foldl_append, foldl_step_escapes, List.append_nil, List.foldl_cons,
    List.foldl_nil]
  cases isName <;> simp [step, stringStep, plainStep, hresult]

/-- **A printed string is read as this string.** -/
theorem reads_string (s : String) : Reads (Json.stringChars s) (.string s) := by
  intro frames mode hmode
  have hquote : step ⟨frames, mode⟩ '"' = ⟨frames, beginText false⟩ :=
    step_eq_beginValue hmode (by decide) (by decide)
  rw [Json.stringChars, List.cons_append, List.foldl_cons, hquote, foldl_step_quoted]
  exact endNumber_of_isBetween (isBetween_put _ _)

/-! #### Whole numbers -/

theorem foldl_step_digits (frames : List Frame) {cs : List Char} (hcs : ∀ c ∈ cs, c.isDigit = true)
    (chars : List Char) :
    cs.foldl step ⟨frames, .number chars .whole⟩ =
      ⟨frames, .number (cs.reverse ++ chars) .whole⟩ := by
  induction cs generalizing chars with
  | nil => rfl
  | cons c cs ih =>
    obtain ⟨hc, hcs⟩ := List.forall_mem_cons.mp hcs
    have hstep : step ⟨frames, .number chars .whole⟩ c = ⟨frames, .number (c :: chars) .whole⟩ := by
      simp [step, numberStep, hc]
    rw [List.foldl_cons, hstep, ih hcs, List.reverse_cons, List.append_assoc, List.singleton_append]

/-- No number but zero begins with a zero. -/
theorem exists_toDigits_eq_cons {n : Nat} (h : n ≠ 0) :
    ∃ d cs, Nat.toDigits 10 n = Nat.digitChar d :: cs ∧ 0 < d ∧ d < 10 := by
  induction n using Nat.strongRecOn with
  | ind n ih =>
    by_cases hsmall : n < 10
    · exact ⟨n, [], Nat.toDigits_of_lt_base hsmall, Nat.pos_of_ne_zero h, hsmall⟩
    · obtain ⟨d, cs, hcs, hpos, hlt⟩ := ih (n / 10) (by omega) (by omega)
      refine ⟨d, cs ++ [Nat.digitChar (n % 10)], ?_, hpos, hlt⟩
      rw [Nat.toDigits_of_base_le (by decide) (by omega), hcs, List.cons_append]

theorem ofDigits_toDigits (n : Nat) : Text.ofDigits (Nat.toDigits 10 n) = n :=
  Nat.ofDigitChars_ten_toDigits

/-- A digit that is not zero begins a number, at its first place or behind a sign. -/
theorem step_digitChar {d : Nat} (hpos : 0 < d) (hlt : d < 10) (frames : List Frame) :
    (∀ mode : Mode, mode.WantsValue → step ⟨frames, mode⟩ (Nat.digitChar d) =
        ⟨frames, .number [Nat.digitChar d] .whole⟩) ∧
      step ⟨frames, .number ['-'] .minus⟩ (Nat.digitChar d) =
        ⟨frames, .number [Nat.digitChar d, '-'] .whole⟩ := by
  constructor
  · intro mode hmode
    interval_cases d <;> exact step_eq_beginValue hmode (by decide) (by decide)
  · interval_cases d <;> rfl

theorem numberValue_digits {cs : List Char} (hcs : ∀ c ∈ cs, c.isDigit = true) :
    numberValue cs = wholeNumber false cs ∧ numberValue ('-' :: cs) = wholeNumber true cs := by
  have hall : cs.all Char.isDigit = true := List.all_eq_true.mpr hcs
  constructor
  · unfold numberValue
    split
    case h_1 chars => exact absurd (hcs '-' List.mem_cons_self) (by decide)
    case h_2 => rw [unsignedNumber, if_pos hall]
  · exact if_pos hall

/-- The digits of a number are read as they stand, with and without a sign before them. -/
theorem foldl_step_toDigits {n : Nat} (h : n ≠ 0) (frames : List Frame) :
    (∀ mode : Mode, mode.WantsValue → (Nat.toDigits 10 n).foldl step ⟨frames, mode⟩ =
        ⟨frames, .number (Nat.toDigits 10 n).reverse .whole⟩) ∧
      (Nat.toDigits 10 n).foldl step ⟨frames, .number ['-'] .minus⟩ =
        ⟨frames, .number ('-' :: Nat.toDigits 10 n).reverse .whole⟩ := by
  have hdigits : ∀ c ∈ Nat.toDigits 10 n, c.isDigit = true :=
    fun c hc => Nat.isDigit_of_mem_toDigits (by decide) (by decide) hc
  obtain ⟨d, cs, hcs, hpos, hlt⟩ := exists_toDigits_eq_cons h
  rw [hcs] at hdigits ⊢
  have hrest := foldl_step_digits frames (List.forall_mem_cons.mp hdigits).2
  obtain ⟨hfirst, hsigned⟩ := step_digitChar hpos hlt frames
  constructor
  · intro mode hmode
    rw [List.foldl_cons, hfirst mode hmode, hrest, List.reverse_cons]
  · rw [List.foldl_cons, hsigned, hrest, List.reverse_cons, List.reverse_cons, List.append_assoc]
    rfl

theorem wholeNumber_false {cs : List Char} {n : Nat} (hn : Text.ofDigits cs = n)
    (h : (n : Int) ≤ Text.uint64Greatest) : wholeNumber false cs = .number (.whole n) := by
  have hfits : Text.fitsUInt64 n = true := by
    rw [Text.fitsUInt64, Bool.and_eq_true, decide_eq_true_iff, decide_eq_true_iff]
    exact ⟨Int.natCast_nonneg n, h⟩
  rw [wholeNumber, if_neg Bool.false_ne_true, hn, if_pos hfits]

theorem wholeNumber_true {cs : List Char} {n : Nat} (hn : Text.ofDigits cs = n) (hne : n ≠ 0)
    (h : Text.int64Least ≤ -(n : Int)) : wholeNumber true cs = .number (.whole (-(n : Int))) := by
  have hfits : Text.fitsInt64 (-(n : Int)) = true := by
    rw [Text.fitsInt64, Bool.and_eq_true, decide_eq_true_iff, decide_eq_true_iff]
    refine ⟨h, ?_⟩
    rw [Text.int64Greatest]
    omega
  rw [wholeNumber, if_pos rfl, hn, if_pos ⟨hne, hfits⟩]

/-- **A printed whole number is read as this number**, if it fits 64 bits. -/
theorem reads_whole {n : Int} (hleast : Text.int64Least ≤ n) (hgreatest : n ≤ Text.uint64Greatest) :
    Reads (toString n).toList (.number (.whole n)) := by
  have hdigits : ∀ m : Nat, ∀ c ∈ Nat.toDigits 10 m, c.isDigit = true :=
    fun m c hc => Nat.isDigit_of_mem_toDigits (by decide) (by decide) hc
  have hcomplete : ∀ frames chars, endNumber ⟨frames, .number chars .whole⟩ =
      put (numberValue chars.reverse) frames := fun _ _ => rfl
  intro frames mode hmode
  rcases n with (_ | m) | m
  · cases hmode <;> rfl
  · have htext : (toString (Int.ofNat (m + 1))).toList = Nat.toDigits 10 (m + 1) := by
      change (toString (m + 1)).toList = _
      rw [Nat.toString_eq_ofList_toDigits, String.toList_ofList]
    rw [htext, (foldl_step_toDigits (Nat.succ_ne_zero m) frames).1 mode hmode, hcomplete,
      List.reverse_reverse, (numberValue_digits (hdigits _)).1,
      wholeNumber_false (ofDigits_toDigits _) hgreatest]
    rfl
  · have htext : (toString (Int.negSucc m)).toList = '-' :: Nat.toDigits 10 (m + 1) := by
      change ("-" ++ toString (m + 1)).toList = _
      simp
    have hminus : step ⟨frames, mode⟩ '-' = ⟨frames, .number ['-'] .minus⟩ :=
      step_eq_beginValue hmode (by decide) (by decide)
    rw [htext, List.foldl_cons, hminus, (foldl_step_toDigits (Nat.succ_ne_zero m) frames).2,
      hcomplete, List.reverse_reverse, (numberValue_digits (hdigits _)).2,
      wholeNumber_true (ofDigits_toDigits _) (Nat.succ_ne_zero m) hleast]
    rfl

/-! #### Arrays and objects -/

/-- A further item or member, behind a comma and blanks. -/
def further (gap text : List Char) : List Char :=
  ',' :: (gap ++ text)

/-- **Parts with commas before them.** If a part takes the reader from the state behind a comma to
the state behind one more part, parts with commas and blanks before them take it from part to
part. -/
theorem foldl_step_further {α : Type} (after next : List α → Reader)
    (hcomma : ∀ xs, step (after xs) ',' = next xs)
    (hnext : ∀ xs, (next xs).mode.isBetween = true) {texts : List (List Char)} {xs : List α}
    (h : List.Forall₂ (fun t x => ∀ before,
      (t.foldl step (next before)).endNumber = after (x :: before)) texts xs)
    {gap : List Char} (hgap : Blank gap) {r : Reader} {before : List α}
    (hr : r.endNumber = after before) :
    ((texts.flatMap (further gap)).foldl step r).endNumber = after (xs.reverse ++ before) := by
  induction h generalizing r before with
  | nil => exact hr
  | cons ht _ ih =>
    have hstep : step r ',' = next before := by
      rw [← step_endNumber (by decide) (by decide) (by decide), hr, hcomma]
    rw [List.flatMap_cons, List.foldl_append, further, List.foldl_cons, hstep, List.foldl_append,
      foldl_step_blank hgap (hnext before), ih (ht before), List.reverse_cons, List.append_assoc,
      List.singleton_append]

/-- The end of an array or object may stand behind blanks. -/
theorem foldl_step_close {cs gap : List Char} (hgap : Blank gap) {r after : Reader}
    (hr : (cs.foldl step r).endNumber = after) (hafter : after.mode.isBetween = true) {c : Char}
    (hc : c = ']' ∨ c = '\x7d') : (cs ++ gap ++ [c]).foldl step r = step after c := by
  have hsame : ∀ r : Reader, step r.endNumber c = step r c := by
    rcases hc with rfl | rfl
    · exact step_endNumber (by decide) (by decide) (by decide)
    · exact step_endNumber (by decide) (by decide) (by decide)
  rw [List.foldl_append, List.foldl_append, List.foldl_cons, List.foldl_nil, ← hsame,
    endNumber_foldl_blank hgap (hr ▸ hafter), hr]

theorem reads_emptyArray : Reads ['[', ']'] (.array [] none) := by
  intro frames mode hmode
  have hopen : step ⟨frames, mode⟩ '[' = ⟨.list [] :: frames, .firstItem⟩ :=
    step_eq_beginValue hmode (by decide) (by decide)
  rw [List.foldl_cons, hopen]
  exact endNumber_of_isBetween (isBetween_put (.array [] none) frames)

theorem reads_emptyObject : Reads ['\x7b', '\x7d'] (.object [] none) := by
  intro frames mode hmode
  have hopen : step ⟨frames, mode⟩ '\x7b' = ⟨.members [] none :: frames, .firstName⟩ :=
    step_eq_beginValue hmode (by decide) (by decide)
  rw [List.foldl_cons, hopen]
  exact endNumber_of_isBetween (isBetween_put (.object [] none) frames)

variable {t gap lastGap : List Char} {ts : List (List Char)} {v : Raw} {vs : List Raw}

/-- **An array is read item by item.** -/
theorem Reads.array (ht : Reads t v) (hts : List.Forall₂ Reads ts vs) (hgap : Blank gap)
    (hlast : Blank lastGap) :
    Reads ('[' :: (gap ++ t ++ ts.flatMap (further gap) ++ lastGap ++ [']']))
      (.array (v :: vs) none) := by
  intro frames mode hmode
  have hopen : step ⟨frames, mode⟩ '[' = ⟨.list [] :: frames, .firstItem⟩ :=
    step_eq_beginValue hmode (by decide) (by decide)
  have hitems : ((gap ++ t ++ ts.flatMap (further gap)).foldl step
      ⟨.list [] :: frames, .firstItem⟩).endNumber =
        ⟨.list (vs.reverse ++ [v]) :: frames, .afterItem⟩ := by
    rw [List.foldl_append, List.foldl_append, foldl_step_blank hgap rfl]
    exact foldl_step_further (fun items => ⟨.list items :: frames, .afterItem⟩)
      (fun items => ⟨.list items :: frames, .nextItem⟩) (fun _ => rfl) (fun _ => rfl)
      (hts.imp fun t v ht before => ht (.list before :: frames) .nextItem .nextItem) hgap
      (ht (.list [] :: frames) .firstItem .firstItem)
  rw [List.foldl_cons, hopen, foldl_step_close hlast hitems rfl (.inl rfl)]
  have hclose : step ⟨.list (vs.reverse ++ [v]) :: frames, .afterItem⟩ ']' =
      put (.array (v :: vs) none) frames := by
    change put (.array (vs.reverse ++ [v]).reverse none) frames = _
    rw [List.reverse_append, List.reverse_reverse, List.reverse_singleton, List.singleton_append]
  rw [hclose]
  exact endNumber_of_isBetween (isBetween_put _ _)

/-- A printed member: its name, a colon with blanks behind it, and its value. -/
def memberText (gap : List Char) (member : String × List Char) : List Char :=
  Json.stringChars member.1 ++ ':' :: (gap ++ member.2)

theorem foldl_step_memberText {frames : List Frame} (hgap : Blank gap) (ht : Reads t v)
    (name : String) (ms : List (Raw.Name × Raw)) {mode : Mode}
    (hmode : mode = .firstName ∨ mode = .nextName) :
    ((memberText gap (name, t)).foldl step ⟨.members ms none :: frames, mode⟩).endNumber =
      ⟨.members ((.ok name, v) :: ms) none :: frames, .afterMember⟩ := by
  have hquote : step ⟨.members ms none :: frames, mode⟩ '"' =
      ⟨.members ms none :: frames, beginText true⟩ := by
    rcases hmode with rfl | rfl <;> rfl
  have hname : (Json.stringChars name).foldl step ⟨.members ms none :: frames, mode⟩ =
      ⟨.members ms (some (.ok name)) :: frames, .colon⟩ := by
    rw [Json.stringChars, List.cons_append, List.foldl_cons, hquote, foldl_step_quoted]
    rfl
  have hcolon : step ⟨.members ms (some (.ok name)) :: frames, .colon⟩ ':' =
      ⟨.members ms (some (.ok name)) :: frames, .value⟩ := rfl
  rw [memberText, List.foldl_append, hname, List.foldl_cons, hcolon, List.foldl_append,
    foldl_step_blank hgap rfl]
  exact ht _ _ .value

/-- **An object is read member by member.** -/
theorem Reads.object {m : String × List Char} {ms : List (String × List Char)}
    {vs : List (Raw.Name × Raw)} {innerGap : List Char} (hm : Reads m.2 v)
    (hms : List.Forall₂ (fun m v => v.1 = Except.ok m.1 ∧ Reads m.2 v.2) ms vs) (hgap : Blank gap)
    (hinner : Blank innerGap) (hlast : Blank lastGap) :
    Reads ('\x7b' :: (gap ++ memberText innerGap m ++
        (ms.map (memberText innerGap)).flatMap (further gap) ++ lastGap ++ ['\x7d']))
      (.object ((.ok m.1, v) :: vs) none) := by
  intro frames mode hmode
  have hopen : step ⟨frames, mode⟩ '\x7b' = ⟨.members [] none :: frames, .firstName⟩ :=
    step_eq_beginValue hmode (by decide) (by decide)
  have hmembers : ((gap ++ memberText innerGap m ++
      (ms.map (memberText innerGap)).flatMap (further gap)).foldl step
        ⟨.members [] none :: frames, .firstName⟩).endNumber =
          ⟨.members (vs.reverse ++ [(.ok m.1, v)]) none :: frames, .afterMember⟩ := by
    rw [List.foldl_append, List.foldl_append, foldl_step_blank hgap rfl]
    refine foldl_step_further (fun ms => ⟨.members ms none :: frames, .afterMember⟩)
      (fun ms => ⟨.members ms none :: frames, .nextName⟩) (fun _ => rfl) (fun _ => rfl)
      ?_ hgap (foldl_step_memberText hinner hm m.1 [] (.inl rfl))
    rw [List.forall₂_map_left_iff]
    refine hms.imp fun m v hm before => ?_
    obtain ⟨name, v⟩ := v
    obtain ⟨rfl, hread⟩ := hm
    exact foldl_step_memberText hinner hread m.1 before (.inr rfl)
  rw [List.foldl_cons, hopen, foldl_step_close hlast hmembers rfl (.inr rfl)]
  have hclose : step ⟨.members (vs.reverse ++ [(.ok m.1, v)]) none :: frames, .afterMember⟩
      '\x7d' = put (.object ((.ok m.1, v) :: vs) none) frames := by
    change put (.object (vs.reverse ++ [(Except.ok m.1, v)]).reverse none) frames = _
    rw [List.reverse_append, List.reverse_reverse, List.reverse_singleton, List.singleton_append]
  rw [hclose]
  exact endNumber_of_isBetween (isBetween_put _ _)

end Reader

namespace Json

open Reader

/-! ### Printed forms -/

/-- All numbers in the value are whole, and fit 64 bits. -/
inductive Whole : Json → Prop
  | null : Whole null
  | bool (b : Bool) : Whole (bool b)
  | number {n : Int} (least : Text.int64Least ≤ n) (greatest : n ≤ Text.uint64Greatest) :
      Whole (number (.whole n))
  | string (s : String) : Whole (string s)
  | array {items : List Json} : (∀ v ∈ items, Whole v) → Whole (array items)
  | object {members : List (String × Json)} : (∀ m ∈ members, Whole m.2) → Whole (object members)

theorem Whole.list {α : Type} {toJson : α → Json} {as : List α} (h : ∀ a ∈ as, (toJson a).Whole) :
    (Json.array (as.map toJson)).Whole :=
  .array (List.forall_mem_map.mpr h)

theorem compactItems_cons (v : Json) (rest : List Json) :
    compactItems (v :: rest) = compact v ++ (rest.map compact).flatMap (further []) := by
  induction rest generalizing v with
  | nil => simp [compactItems]
  | cons w rest ih => simp [compactItems, ih, further]

theorem compactMembers_cons (name : String) (v : Json) (rest : List (String × Json)) :
    compactMembers ((name, v) :: rest) = memberText [] (name, compact v) ++
      ((rest.map fun m => (m.1, compact m.2)).map (memberText [])).flatMap (further []) := by
  induction rest generalizing name v with
  | nil => simp [compactMembers, memberText]
  | cons m rest ih =>
    obtain ⟨other, w⟩ := m
    simp [compactMembers, ih, further, memberText]

theorem indentedItems_eq (level : Nat) (items : List Json) :
    indentedItems level items = (items.map (indented level)).flatMap (further (newLine level)) := by
  induction items with
  | nil => rfl
  | cons v rest ih => simp [indentedItems, ih, further]

theorem indentedMembers_eq (level : Nat) (members : List (String × Json)) :
    indentedMembers level members =
      ((members.map fun m => (m.1, indented level m.2)).map (memberText [' '])).flatMap
        (further (newLine level)) := by
  induction members with
  | nil => rfl
  | cons m rest ih =>
    obtain ⟨name, v⟩ := m
    simp [indentedMembers, ih, further, memberText]

theorem blank_newLine (level : Nat) : Blank (newLine level) := by
  intro c hc
  rcases List.mem_cons.mp hc with rfl | hc
  · rfl
  · rw [List.eq_of_mem_replicate hc]
    rfl

/-- The members of a printed object are read if their values are. -/
theorem forall₂_members {print : Json → List Char} {members : List (String × Json)}
    (h : ∀ m ∈ members, Reads (print m.2) (Raw.ofJson m.2)) :
    List.Forall₂ (fun m v => v.1 = Except.ok m.1 ∧ Reads m.2 v.2)
      (members.map fun m => (m.1, print m.2)) (Raw.ofMembers members) := by
  induction members with
  | nil => exact .nil
  | cons m rest ih =>
    obtain ⟨hm, hrest⟩ := List.forall_mem_cons.mp h
    exact .cons ⟨rfl, hm⟩ (ih hrest)

theorem forall₂_items {print : Json → List Char} {items : List Json}
    (h : ∀ v ∈ items, Reads (print v) (Raw.ofJson v)) :
    List.Forall₂ Reads (items.map print) (Raw.ofItems items) := by
  induction items with
  | nil => exact .nil
  | cons v rest ih =>
    obtain ⟨hv, hrest⟩ := List.forall_mem_cons.mp h
    exact .cons hv (ih hrest)

/-- **The compact form is read as the value.** -/
theorem Whole.reads_compact {v : Json} (h : v.Whole) : Reads (compact v) (Raw.ofJson v) := by
  have hnone : Blank [] := List.forall_mem_nil _
  induction h with
  | null => exact reads_null
  | bool b => exact reads_bool b
  | number least greatest => exact reads_whole least greatest
  | string s => exact reads_string s
  | @array items _ ih =>
    cases items with
    | nil => exact reads_emptyArray
    | cons v rest =>
      obtain ⟨hv, hrest⟩ := List.forall_mem_cons.mp ih
      have hread := hv.array (forall₂_items hrest) hnone hnone
      simpa [compact, compactItems_cons, Raw.ofJson, Raw.ofItems] using hread
  | @object members _ ih =>
    cases members with
    | nil => exact reads_emptyObject
    | cons m rest =>
      obtain ⟨name, v⟩ := m
      obtain ⟨hv, hrest⟩ := List.forall_mem_cons.mp ih
      have hread := Reads.object (m := (name, compact v)) hv (forall₂_members hrest) hnone hnone
        hnone
      simpa [compact, compactMembers_cons, Raw.ofJson, Raw.ofMembers] using hread

/-- **The indented form is read as the value**, at every level. -/
theorem Whole.reads_indented {v : Json} (h : v.Whole) :
    ∀ level, Reads (indented level v) (Raw.ofJson v) := by
  have hspace : Blank [' '] := List.forall_mem_singleton.mpr rfl
  induction h with
  | null => exact fun _ => reads_null
  | bool b => exact fun _ => reads_bool b
  | number least greatest => exact fun _ => reads_whole least greatest
  | string s => exact fun _ => reads_string s
  | @array items _ ih =>
    intro level
    cases items with
    | nil => exact reads_emptyArray
    | cons v rest =>
      obtain ⟨hv, hrest⟩ := List.forall_mem_cons.mp ih
      have hread := (hv (level + 1)).array (forall₂_items fun w hw => hrest w hw (level + 1))
        (blank_newLine (level + 1)) (blank_newLine level)
      simpa [indented, indentedItems_eq, Raw.ofJson, Raw.ofItems] using hread
  | @object members _ ih =>
    intro level
    cases members with
    | nil => exact reads_emptyObject
    | cons m rest =>
      obtain ⟨name, v⟩ := m
      obtain ⟨hv, hrest⟩ := List.forall_mem_cons.mp ih
      have hread := Reads.object (m := (name, indented (level + 1) v)) (hv (level + 1))
        (forall₂_members fun w hw => hrest w hw (level + 1)) (blank_newLine (level + 1)) hspace
        (blank_newLine level)
      simpa [indented, indentedMembers_eq, memberText, Raw.ofJson, Raw.ofMembers] using hread

end Json

/-! ### Whole texts -/

namespace JsonText

theorem ofChars_of_reads {cs : List Char} {v : Raw} (h : Reader.Reads cs v) :
    ofChars cs = ⟨v, none⟩ := by
  have hend : (cs.foldl Reader.step Reader.start).endNumber = Reader.put v [] := h [] .value .value
  rw [ofChars, Reader.finish, hend]
  rfl

/-- **What is printed in the compact form is read again.** -/
theorem read_toCompact {v : Json} (h : v.Whole) : read v.toCompact = ⟨Raw.ofJson v, none⟩ := by
  rw [read, Json.toCompact, String.toList_ofList, ofChars_of_reads h.reads_compact]

/-- **What is printed in the indented form is read again.** -/
theorem read_toIndented {v : Json} (h : v.Whole) : read v.toIndented = ⟨Raw.ofJson v, none⟩ := by
  rw [read, Json.toIndented, String.toList_ofList, ofChars_of_reads (h.reads_indented 0)]

end JsonText

end GuardedSearch
