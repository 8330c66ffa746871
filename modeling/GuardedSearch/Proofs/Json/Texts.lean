import GuardedSearch.Json.Reader
import GuardedSearch.Proofs.Json.Words
import GuardedSearch.Proofs.Stages
import GuardedSearch.Proofs.Table

/-!
# Numbers in texts

A number is taken for a whole one only if it fits 64 bits, so every value of a text has numbers that
fit. The reader makes numbers at one place and moves trees everywhere else: `Reader.Fits` says that
all trees in a state have numbers that fit, one character keeps it, and so does a text.

## Main definitions

* `Raw.Fits`, `Reader.Fits` — all numbers in a tree, and in a state of the reader, fit 64 bits

## Main results

* `Reader.fits_step`, `JsonText.fits_ofChars` — one character, and all characters of a text
* `Json.fits_of_ofText?` — the value of a text
-/

namespace GuardedSearch

/-! ### Trees -/

/-- All numbers in the tree fit 64 bits. -/
inductive Raw.Fits : Raw → Prop
  | fault (start : Raw.Start) (cut : Cut) : Fits (.fault start cut)
  | unreadable (start : Raw.Start) (e : SyntaxError) : Fits (.unreadable start e)
  | null : Fits .null
  | bool (b : Bool) : Fits (.bool b)
  | number {n : Json.Number} : n.Fits → Fits (.number n)
  | string (s : String) : Fits (.string s)
  | array {items : List Raw} (cut : Option Cut) : (∀ r ∈ items, Fits r) → Fits (.array items cut)
  | object {members : List (Raw.Name × Raw)} (cut : Option Cut) :
      (∀ m ∈ members, Fits m.2) → Fits (.object members cut)

namespace Raw

variable {room : Room}

theorem fits_toItems {items : List Raw}
    (h : ∀ r ∈ items, ∀ v, r.toJson room = .ok v → v.Fits) {values : List Json}
    (hread : toItems room items = .ok values) : ∀ v ∈ values, v.Fits := by
  induction items generalizing values with
  | nil =>
    cases hread
    exact nofun
  | cons r items ih =>
    obtain ⟨hr, hitems⟩ := List.forall_mem_cons.mp h
    simp only [toItems, bind_eq_ok_iff, pure_eq_ok_iff] at hread
    obtain ⟨v, hv, vs, hvs, rfl⟩ := hread
    exact List.forall_mem_cons.mpr ⟨hr v hv, ih hitems hvs⟩

theorem fits_toMembers {members : List (Name × Raw)}
    (h : ∀ m ∈ members, ∀ v, m.2.toJson room = .ok v → v.Fits)
    {before values : List (String × Json)} (hbefore : ∀ m ∈ before, m.2.Fits)
    (hread : toMembers room before members = .ok values) : ∀ m ∈ values, m.2.Fits := by
  induction members generalizing before with
  | nil =>
    cases hread
    exact hbefore
  | cons m members ih =>
    obtain ⟨hm, hmembers⟩ := List.forall_mem_cons.mp h
    obtain ⟨_ | name, r⟩ := m
    · cases hread
    · simp only [toMembers, bind_eq_ok_iff] at hread
      obtain ⟨v, hv, hread⟩ := hread
      refine ih hmembers (fun entry hentry => ?_) hread
      rcases Table.mem_put hentry with rfl | hentry
      · exact hm v hv
      · exact hbefore entry hentry

/-- The value of a tree has the numbers of the tree. -/
theorem Fits.toJson {r : Raw} (h : r.Fits) :
    ∀ {room : Room} {v : Json}, r.toJson room = .ok v → v.Fits := by
  induction h with
  | fault | unreadable =>
    intro room v hread
    cases hread
  | null | bool | string =>
    intro room v hread
    cases hread
    constructor
  | number hn =>
    intro room v hread
    cases hread
    exact .number hn
  | array cut hitems ih =>
    intro room v hread
    simp only [Raw.toJson, bind_eq_ok_iff, pure_eq_ok_iff] at hread
    obtain ⟨inner, -, values, hvalues, -, -, rfl⟩ := hread
    exact .array (fits_toItems (fun r hr v hv => ih r hr hv) hvalues)
  | object cut hmembers ih =>
    intro room v hread
    simp only [Raw.toJson, bind_eq_ok_iff, pure_eq_ok_iff] at hread
    obtain ⟨inner, -, values, hvalues, -, -, rfl⟩ := hread
    exact .object
      (fits_toMembers (fun m hm v hv => ih m hm hv) (List.forall_mem_nil _) hvalues)

end Raw

/-! ### States of the reader -/

namespace Reader

/-- All numbers in what has been read of an array or object fit 64 bits. -/
def Frame.Fits : Frame → Prop
  | .list items => ∀ r ∈ items, r.Fits
  | .members ms _ => ∀ m ∈ ms, m.2.Fits

/-- All numbers in the tree that a mode holds fit 64 bits. -/
def Mode.Fits : Mode → Prop
  | .word _ r | .finished r | .stopped r _ => r.Fits
  | _ => True

/-- All numbers that have been read fit 64 bits. -/
structure Fits (r : Reader) : Prop where
  frames : ∀ f ∈ r.frames, f.Fits
  mode : r.mode.Fits

theorem fits_start : start.Fits :=
  ⟨nofun, trivial⟩

theorem fits_ofDouble (x : Double) : (wholeNumber.ofDouble x).Fits := by
  cases x with
  | nan | infinite => exact .unreadable _ _
  | finite x => exact .number trivial

/-- A number is whole only if it fits. -/
theorem fits_wholeNumber (negative : Bool) (digits : List Char) :
    (wholeNumber negative digits).Fits := by
  have hgreatest : Text.int64Greatest ≤ Text.uint64Greatest := by decide
  have hleast : Text.int64Least ≤ 0 := by decide
  unfold wholeNumber
  dsimp only
  split
  · split
    case isTrue h =>
      rw [Text.fitsInt64, Bool.and_eq_true, decide_eq_true_iff, decide_eq_true_iff] at h
      exact .number ⟨h.2.1, Int.le_trans h.2.2 hgreatest⟩
    case isFalse => exact fits_ofDouble _
  · split
    case isTrue h =>
      rw [Text.fitsUInt64, Bool.and_eq_true, decide_eq_true_iff, decide_eq_true_iff] at h
      exact .number ⟨Int.le_trans hleast h.1, h.2⟩
    case isFalse => exact fits_ofDouble _

theorem fits_numberValue (chars : List Char) : (numberValue chars).Fits := by
  have hunsigned : ∀ negative chars, (unsignedNumber negative chars).Fits := by
    intro negative chars
    unfold unsignedNumber
    split
    · exact fits_wholeNumber negative chars
    · split
      · exact fits_ofDouble _
      · exact .unreadable _ _
  unfold numberValue
  split
  · exact hunsigned true _
  · exact hunsigned false _

section

variable {frames : List Frame}

theorem fits_collapse {cut : Cut} (h : ∀ f ∈ frames, f.Fits) {inner : Option Raw}
    (hinner : ∀ r ∈ inner, r.Fits) : (collapse cut inner frames).Fits := by
  have hlast : (inner.getD (.fault .nothing cut)).Fits := by
    cases inner with
    | none => exact .fault _ _
    | some r => exact hinner r rfl
  -- From the innermost frame outwards: each closed tree is the inner one of the next frame.
  induction frames generalizing inner with
  | nil => exact hlast
  | cons f frames ih =>
    obtain ⟨hf, hframes⟩ := List.forall_mem_cons.mp h
    have houter : ∀ {r : Raw}, r.Fits → (collapse cut (some r) frames).Fits := by
      intro r hr
      exact ih hframes (fun _ hsome => Option.mem_some.mp hsome ▸ hr) hr
    cases f with
    | list items =>
      refine houter (.array _ fun r hr => ?_)
      rcases List.mem_append.mp hr with hr | hr
      · exact hf r (List.mem_reverse.mp hr)
      · exact hinner r (Option.mem_toList.mp hr)
    | members ms name =>
      refine houter (.object _ fun m hm => ?_)
      rcases List.mem_append.mp hm with hm | hm
      · exact hf m (List.mem_reverse.mp hm)
      · cases name with
        | none => cases hm
        | some name => exact List.mem_singleton.mp hm ▸ hlast

theorem fits_stop (h : ∀ f ∈ frames, f.Fits) (cut : Cut) : (stop frames cut).Fits :=
  ⟨nofun, fits_collapse h nofun⟩

theorem fits_stopValue (h : ∀ f ∈ frames, f.Fits) (start : Raw.Start) (cut : Cut) :
    (stopValue frames start cut).Fits :=
  ⟨nofun, fits_collapse h fun _ hr => Option.mem_some.mp hr ▸ .fault start cut⟩

theorem fits_put {v : Raw} (hv : v.Fits) (h : ∀ f ∈ frames, f.Fits) : (put v frames).Fits := by
  cases frames with
  | nil => exact ⟨nofun, hv⟩
  | cons f frames =>
    obtain ⟨hf, hframes⟩ := List.forall_mem_cons.mp h
    cases f with
    | list items =>
      exact ⟨List.forall_mem_cons.mpr ⟨List.forall_mem_cons.mpr ⟨hv, hf⟩, hframes⟩, trivial⟩
    | members ms name =>
      cases name with
      | none => exact ⟨h, trivial⟩
      | some name =>
        exact ⟨List.forall_mem_cons.mpr ⟨List.forall_mem_cons.mpr ⟨hv, hf⟩, hframes⟩, trivial⟩

theorem fits_closeList (h : ∀ f ∈ frames, f.Fits) : (closeList frames).Fits := by
  unfold closeList
  split
  · obtain ⟨hitems, hframes⟩ := List.forall_mem_cons.mp h
    exact fits_put (.array none fun r hr => hitems r (List.mem_reverse.mp hr)) hframes
  · exact fits_stop h _

theorem fits_closeObject (h : ∀ f ∈ frames, f.Fits) : (closeObject frames).Fits := by
  unfold closeObject
  split
  · obtain ⟨hms, hframes⟩ := List.forall_mem_cons.mp h
    exact fits_put (.object none fun m hm => hms m (List.mem_reverse.mp hm)) hframes
  · exact fits_stop h _

theorem fits_putName (name : Raw.Name) (h : ∀ f ∈ frames, f.Fits) :
    (putName name frames).Fits := by
  unfold putName
  split
  · obtain ⟨hms, hframes⟩ := List.forall_mem_cons.mp h
    exact ⟨List.forall_mem_cons.mpr ⟨hms, hframes⟩, trivial⟩
  · exact fits_stop h _

theorem fits_beginValue (h : ∀ f ∈ frames, f.Fits) (c : Char) : (beginValue frames c).Fits := by
  have hopen : ∀ f : Frame, f.Fits → ∀ g ∈ f :: frames, g.Fits :=
    fun f hf => List.forall_mem_cons.mpr ⟨hf, h⟩
  unfold beginValue
  split
  case h_1 => exact ⟨hopen _ nofun, trivial⟩
  case h_2 => exact ⟨hopen _ nofun, trivial⟩
  case h_4 => exact ⟨h, .bool true⟩
  case h_5 => exact ⟨h, .bool false⟩
  case h_6 => exact ⟨h, .null⟩
  case h_9 =>
    split
    · exact ⟨h, trivial⟩
    · exact fits_stopValue h _ _
  all_goals exact ⟨h, trivial⟩

theorem fits_ite {p : Prop} [Decidable p] {r r' : Reader} (h : r.Fits) (h' : r'.Fits) :
    (if p then r else r').Fits := by
  split
  · exact h
  · exact h'

theorem fits_stepBetween (h : ∀ f ∈ frames, f.Fits) {mode : Mode} (hmode : mode.Fits) (c : Char) :
    (stepBetween frames mode c).Fits := by
  refine fits_ite ⟨h, hmode⟩ ?_
  cases mode with
  | value => exact fits_beginValue h c
  | firstItem => exact fits_ite (fits_closeList h) (fits_beginValue h c)
  | nextItem => exact fits_ite (fits_stop h _) (fits_beginValue h c)
  | firstName => exact fits_ite ⟨h, trivial⟩ (fits_ite (fits_closeObject h) (fits_stop h _))
  | nextName => exact fits_ite ⟨h, trivial⟩ (fits_ite (fits_stop h _) (fits_stop h _))
  | colon => exact fits_ite ⟨h, trivial⟩ (fits_stop h _)
  | afterItem => exact fits_ite ⟨h, trivial⟩ (fits_ite (fits_closeList h) (fits_stop h _))
  | afterMember => exact fits_ite ⟨h, trivial⟩ (fits_ite (fits_closeObject h) (fits_stop h _))
  | finished root => exact ⟨nofun, hmode⟩
  | text | number | word | stopped => exact ⟨h, hmode⟩

end

/-- **One character keeps the numbers that fit.** -/
theorem fits_step {r : Reader} (h : r.Fits) (c : Char) : (r.step c).Fits := by
  obtain ⟨frames, mode⟩ := r
  obtain ⟨hframes, hmode⟩ := h
  cases mode with
  | stopped => exact ⟨hframes, hmode⟩
  | text isName scan =>
    dsimp only [step]
    cases stringStep scan c with
    | goOn scan => exact ⟨hframes, trivial⟩
    | invalid cut => exact fits_ite (fits_stop hframes _) (fits_stopValue hframes _ _)
    | ended scan =>
      refine fits_ite (fits_putName _ hframes) ?_
      cases scan.result with
      | ok s => exact fits_put (.string s) hframes
      | error e => exact fits_put (.unreadable _ e) hframes
  | number chars phase =>
    dsimp only [step]
    cases numberStep phase c with
    | goOn phase => exact ⟨hframes, trivial⟩
    | invalid => exact fits_stopValue hframes _ _
    | ended =>
      have hput := fits_put (fits_numberValue chars.reverse) hframes
      exact fits_stepBetween hput.frames hput.mode c
  | word expected result =>
    cases expected with
    | nil => exact fits_stepBetween hframes hmode c
    | cons expected rest =>
      refine fits_ite (fits_ite (fits_put hmode hframes) ⟨hframes, hmode⟩) ?_
      exact fits_stopValue hframes _ _
  | value | firstItem | nextItem | firstName | nextName | colon | afterItem | afterMember
  | finished => exact fits_stepBetween hframes hmode c

theorem fits_foldl_step {r : Reader} (h : r.Fits) (cs : List Char) : (cs.foldl step r).Fits := by
  induction cs generalizing r with
  | nil => exact h
  | cons c cs ih => exact ih (fits_step h c)

theorem fits_endNumber {r : Reader} (h : r.Fits) : r.endNumber.Fits := by
  obtain ⟨frames, mode⟩ := r
  cases mode with
  | number chars phase => exact fits_ite (fits_put (fits_numberValue _) h.frames) h
  | _ => exact h

theorem fits_stopAtEnd {r : Reader} (h : r.Fits) : r.stopAtEnd.Fits := by
  obtain ⟨frames, mode⟩ := r
  cases mode with
  | firstItem | afterItem | firstName | colon | afterMember | nextName => exact fits_stop h.frames _
  | value | nextItem | word | number => exact fits_stopValue h.frames _ _
  | text isName scan =>
    cases isName with
    | true => exact fits_stop h.frames _
    | false => exact fits_stopValue h.frames _ _
  | finished | stopped => exact h

theorem fits_finish {r : Reader} (h : r.Fits) : r.finish.root.Fits := by
  have hmode := (fits_stopAtEnd (fits_endNumber h)).mode
  unfold finish
  cases hend : r.endNumber.stopAtEnd.mode with
  | stopped root | finished root => rwa [hend] at hmode
  | _ => exact .fault _ _

end Reader

/-! ### Texts -/

theorem JsonText.fits_ofChars (cs : List Char) : (JsonText.ofChars cs).root.Fits :=
  Reader.fits_finish (Reader.fits_foldl_step Reader.fits_start cs)

/-- **The value of a text has numbers that fit 64 bits.** -/
theorem Json.fits_of_ofText? {s : String} {v : Json} (h : Json.ofText? s = .ok v) : v.Fits := by
  simp only [Json.ofText?, bind_eq_ok_iff] at h
  obtain ⟨value, hvalue, hrest⟩ := h
  have hfits : value.Fits := (JsonText.fits_ofChars s.toList).toJson hvalue
  split at hrest
  · cases hrest
  · cases hrest
    exact hfits

end GuardedSearch
