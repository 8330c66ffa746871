import GuardedSearch.Instant.Parser
import GuardedSearch.Proofs.Instant.Calendar
import GuardedSearch.Proofs.Text.Shape

/-!
# Instants written alike

The order of texts is that of the instants they denote if they are written alike: as dates or as
timestamps of one shape, and with the same offset from UTC if they have one. The fields of such
texts stand under each other, from the year down to the fraction of a second, and are read in step.

An offset that differs breaks this, and so does a sign before the year, which turns the order of
years round.

## Main definitions

* `Instant.offsetIn?` — the offset of a timestamp
* `Instant.WrittenAlike` — two texts denote instants field under field

## Main results

* `Instant.notAfter_of_writtenAlike` — the order of such texts is that of the instants
-/

namespace GuardedSearch.Instant

open Text (SameShape InStep)

/-! ### Numbers and characters -/

variable {cs ds cs' ds' : List Char}

theorem digits?_inStep {n a b : Nat} (h : SameShape cs ds) (hcs : digits? n cs = some (a, cs'))
    (hds : digits? n ds = some (b, ds')) : InStep cs ds a b cs' ds' := by
  rw [digits?] at hcs hds
  split at hcs
  case isTrue hdigits =>
    split at hds
    case isTrue =>
      obtain ⟨rfl, rfl⟩ := Prod.mk.inj (Option.some.inj hcs)
      obtain ⟨rfl, rfl⟩ := Prod.mk.inj (Option.some.inj hds)
      exact h.inStep_take hdigits.2
    case isFalse => cases hds
  case isFalse => cases hcs

theorem digitsUpTo?_inStep {most a b : Nat} (h : SameShape cs ds)
    (hcs : digitsUpTo? most cs = some (a, cs')) (hds : digitsUpTo? most ds = some (b, ds')) :
    InStep cs ds a b cs' ds' := by
  have htake : ∀ es : List Char, es.take ((es.take most).takeWhile Char.isDigit).length =
      (es.take most).takeWhile Char.isDigit := fun es =>
    (List.prefix_iff_eq_take.mp ((List.takeWhile_prefix _).trans (List.take_prefix _ _))).symm
  obtain ⟨hlength, -⟩ := (h.take most).span_isDigit
  rw [digitsUpTo?] at hcs hds
  split at hcs
  · cases hcs
  split at hds
  · cases hds
  obtain ⟨rfl, rfl⟩ := Prod.mk.inj (Option.some.inj hcs)
  obtain ⟨rfl, rfl⟩ := Prod.mk.inj (Option.some.inj hds)
  have hstep : InStep cs ds _ _ _ _ := h.inStep_take
    (n := ((cs.take most).takeWhile Char.isDigit).length) (by
      rw [htake]
      exact List.all_eq_true.mpr fun _ hc => List.mem_takeWhile_imp hc)
  rw [hlength]
  rwa [htake, hlength, htake] at hstep

theorem oneOf?_eq_some {set : List Char} {c : Char} (h : oneOf? set cs = some (c, cs')) :
    cs = c :: cs' ∧ c ∈ set := by
  cases cs with
  | nil => cases h
  | cons e es =>
    rw [oneOf?] at h
    split at h
    case isTrue hmem =>
      obtain ⟨rfl, rfl⟩ := Prod.mk.inj (Option.some.inj h)
      exact ⟨rfl, hmem⟩
    case isFalse => cases h

/-- A character between numbers stands in both texts. -/
theorem oneOf?_step {set : List Char} (hset : ∀ c ∈ set, c.isDigit = false) {c d : Char}
    (h : SameShape cs ds) (hcs : oneOf? set cs = some (c, cs'))
    (hds : oneOf? set ds = some (d, ds')) : SameShape cs' ds' ∧ (cs < ds ↔ cs' < ds') := by
  obtain ⟨rfl, hmem⟩ := oneOf?_eq_some hcs
  obtain ⟨rfl, -⟩ := oneOf?_eq_some hds
  obtain ⟨ds'', hcons, hshape⟩ := h.exists_cons (hset c hmem)
  obtain ⟨rfl, rfl⟩ := List.cons.inj hcons
  refine ⟨hshape, ?_⟩
  simp only [List.cons_lt_cons_iff, Char.lt_irrefl, eq_self, true_and, false_or]

/-- A number and the character after it are read in step. -/
theorem inStep_oneOf? {set : List Char} (hset : ∀ c ∈ set, c.isDigit = false) {c d : Char}
    {a b : Nat} {cs₁ ds₁ : List Char} (h : InStep cs ds a b cs₁ ds₁)
    (hcs : oneOf? set cs₁ = some (c, cs')) (hds : oneOf? set ds₁ = some (d, ds')) :
    InStep cs ds a b cs' ds' := by
  obtain ⟨hshape, hlt⟩ := oneOf?_step hset h.shape hcs hds
  exact ⟨hshape, h.lt_iff.trans (or_congr_right (and_congr_right fun _ => hlt))⟩

theorem monthOrDay?_inStep {a b : Nat} (h : SameShape cs ds)
    (hcs : monthOrDay? cs = some (a, cs')) (hds : monthOrDay? ds = some (b, ds')) :
    InStep cs ds a b cs' ds' := by
  have hblank : ∀ c, c.isDigit = true → Text.isBlank c = false := fun c => Text.isBlank_of_isDigit
  have hstep := digitsUpTo?_inStep (h.span_of_isDigit_eq_false hblank).2 hcs hds
  exact ⟨hstep.shape, (h.lt_iff_dropWhile_lt hblank).trans hstep.lt_iff⟩

/-! ### Days -/

/-- **The order of texts that have a year, a month and a day in step is that of the days.** -/
theorem number_le_of_inStep {d e : CalendarDay} {year year' : Nat} {cs₁ ds₁ cs₂ ds₂ : List Char}
    (hdyear : d.year = year) (heyear : e.year = year') (hd : d.IsValid) (he : e.IsValid)
    (hyear : InStep cs ds year year' cs₁ ds₁) (hmonth : InStep cs₁ ds₁ d.month e.month cs₂ ds₂)
    (hday : InStep cs₂ ds₂ d.day e.day cs' ds') (hle : ¬ cs < ds) :
    e.number < d.number ∨ e = d ∧ ¬ cs' < ds' := by
  obtain ⟨hyearle, hrest₁⟩ := hyear.le hle
  have hmonthle : e.year = d.year → e.month ≤ d.month ∧ (d.month = e.month → ¬ cs₂ < ds₂) :=
    fun heq => hmonth.le (hrest₁ (by omega))
  have hdayle : e.year = d.year → e.month = d.month →
      e.day ≤ d.day ∧ (d.day = e.day → ¬ cs' < ds') := fun hyeq hmeq =>
    hday.le ((hmonthle hyeq).2 hmeq.symm)
  rcases CalendarDay.number_le_of_lex he hd (by omega) (fun h => (hmonthle h).1)
    (fun h h' => (hdayle h h').1) with hlt | heq
  · exact .inl hlt
  · exact .inr ⟨heq, (hdayle (heq ▸ rfl) (heq ▸ rfl)).2 (heq ▸ rfl)⟩

theorem isDigit_of_mem_dash : ∀ c ∈ ['-'], c.isDigit = false :=
  List.forall_mem_singleton.mpr rfl

theorem fixedDate?_step {d e : CalendarDay} (h : SameShape cs ds)
    (hcs : fixedDate? cs = some (d, cs')) (hds : fixedDate? ds = some (e, ds')) :
    SameShape cs' ds' ∧ (¬ cs < ds → e.number < d.number ∨ e = d ∧ ¬ cs' < ds') := by
  simp only [fixedDate?, Option.bind_eq_bind, Option.bind_eq_some_iff, Prod.exists] at hcs hds
  obtain ⟨y₁, cs₁, hy₁, _, cs₂, hs₁, m₁, cs₃, hm₁, _, cs₄, hs₁', d₁, cs₅, hd₁, hcs⟩ := hcs
  obtain ⟨y₂, ds₁, hy₂, _, ds₂, hs₂, m₂, ds₃, hm₂, _, ds₄, hs₂', d₂, ds₅, hd₂, hds⟩ := hds
  have hyear := inStep_oneOf? isDigit_of_mem_dash (digits?_inStep h hy₁ hy₂) hs₁ hs₂
  have hmonth := inStep_oneOf? isDigit_of_mem_dash (digits?_inStep hyear.shape hm₁ hm₂) hs₁' hs₂'
  have hday := digits?_inStep hmonth.shape hd₁ hd₂
  split at hcs
  case isTrue hd =>
    split at hds
    case isTrue he =>
      obtain ⟨rfl, rfl⟩ := Prod.mk.inj (Option.some.inj hcs)
      obtain ⟨rfl, rfl⟩ := Prod.mk.inj (Option.some.inj hds)
      exact ⟨hday.shape, number_le_of_inStep rfl rfl hd he hyear hmonth hday⟩
    case isFalse => cases hds
  case isFalse => cases hcs

/-! ### Times -/

/-- The number of digits of a fraction that are kept. -/
def keptDigits (cs : List Char) : Nat :=
  min 9 (cs.takeWhile Char.isDigit).length

theorem take_keptDigits (cs : List Char) :
    cs.take (keptDigits cs) = (cs.takeWhile Char.isDigit).take 9 := by
  conv_rhs => rw [List.prefix_iff_eq_take.mp (List.takeWhile_prefix _), List.take_take]
  rfl

theorem take_keptDigits_all (cs : List Char) :
    (cs.take (keptDigits cs)).all Char.isDigit = true := by
  rw [take_keptDigits]
  exact List.all_eq_true.mpr fun _ hc => List.mem_takeWhile_imp (List.mem_of_mem_take hc)

theorem fraction?_of_point {a : Nat} (h : fraction? ('.' :: cs) = some (a, cs')) :
    a = Text.ofDigits (cs.take (keptDigits cs)) * 10 ^ (9 - keptDigits cs) := by
  simp only [fraction?] at h
  split at h
  case isTrue => cases h
  case isFalse =>
    obtain ⟨rfl, -⟩ := Prod.mk.inj (Option.some.inj h)
    rw [take_keptDigits, keptDigits, ← List.length_take]
    rfl

theorem fraction?_of_no_point {a : Nat} (hpoint : ∀ rest, cs ≠ '.' :: rest)
    (h : fraction? cs = some (a, cs')) : a = 0 := by
  rw [fraction?.eq_2 cs hpoint] at h
  exact (Prod.mk.inj (Option.some.inj h)).1.symm

/-- What is kept of a fraction is less than a second. -/
theorem fraction?_lt {a : Nat} (h : fraction? cs = some (a, cs')) : a < nanosPerSecond := by
  by_cases hpoint : ∃ rest, cs = '.' :: rest
  · obtain ⟨rest, rfl⟩ := hpoint
    have hle : keptDigits rest ≤ 9 := Nat.min_le_left _ _
    have hlt := Text.ofDigits_lt (List.all_eq_true.mp (take_keptDigits_all rest))
    have hlength := List.length_take_le (keptDigits rest) rest
    calc a = _ := fraction?_of_point h
      _ < 10 ^ keptDigits rest * 10 ^ (9 - keptDigits rest) :=
        Nat.mul_lt_mul_of_pos_right (hlt.trans_le (Nat.pow_le_pow_right (by decide) hlength))
          (Nat.pow_pos (by decide))
      _ = nanosPerSecond := by
        rw [← Nat.pow_add, Nat.add_sub_cancel' hle]
        rfl
  · rw [fraction?_of_no_point (not_exists.mp hpoint) h]
    decide

theorem fraction?_le {a b : Nat} (h : SameShape cs ds) (hcs : fraction? cs = some (a, cs'))
    (hds : fraction? ds = some (b, ds')) (hle : ¬ cs < ds) : b ≤ a := by
  by_cases hpoint : ∃ rest, ds = '.' :: rest
  · obtain ⟨rest', rfl⟩ := hpoint
    obtain ⟨rest, rfl, hshape⟩ := h.symm.exists_cons (by decide)
    have hkept : keptDigits rest' = keptDigits rest := by
      rw [keptDigits, keptDigits, hshape.span_isDigit.1]
    rw [fraction?_of_point hcs, fraction?_of_point hds, hkept]
    refine Nat.mul_le_mul_right _ ((hshape.symm.inStep_take (take_keptDigits_all rest)).le ?_).1
    exact fun hlt => hle (List.cons_lt_cons_iff.mpr (.inr ⟨rfl, hlt⟩))
  · rw [fraction?_of_no_point (not_exists.mp hpoint) hds]
    exact Nat.zero_le a

theorem isDigit_of_mem_colon : ∀ c ∈ [':'], c.isDigit = false :=
  List.forall_mem_singleton.mpr rfl

/-- **The order of times of one shape is that of the seconds and nanoseconds.** A leap second is
the one before it with more nanoseconds. -/
theorem fixedTime?_step {s t a b : Nat} (h : SameShape cs ds)
    (hcs : fixedTime? cs = some (s, a, cs')) (hds : fixedTime? ds = some (t, b, ds')) :
    (s < 86400 ∧ t < 86400) ∧ (¬ cs < ds → t < s ∨ t = s ∧ b ≤ a) := by
  simp only [fixedTime?, Option.bind_eq_bind, Option.bind_eq_some_iff, Prod.exists] at hcs hds
  obtain ⟨h₁, cs₁, hh₁, _, cs₂, hs₁, m₁, cs₃, hm₁, _, cs₄, hs₁', s₁, cs₅, hd₁, n₁, cs₆, hn₁, hcs⟩ :=
    hcs
  obtain ⟨h₂, ds₁, hh₂, _, ds₂, hs₂, m₂, ds₃, hm₂, _, ds₄, hs₂', s₂, ds₅, hd₂, n₂, ds₆, hn₂, hds⟩ :=
    hds
  have hhour := inStep_oneOf? isDigit_of_mem_colon (digits?_inStep h hh₁ hh₂) hs₁ hs₂
  have hminute := inStep_oneOf? isDigit_of_mem_colon (digits?_inStep hhour.shape hm₁ hm₂) hs₁' hs₂'
  have hsecond := digits?_inStep hminute.shape hd₁ hd₂
  have hnanos₁ := fraction?_lt hn₁
  have hnanos₂ := fraction?_lt hn₂
  have hstep : ¬ cs < ds → h₂ ≤ h₁ ∧ (h₁ = h₂ → m₂ ≤ m₁ ∧ (m₁ = m₂ → s₂ ≤ s₁ ∧
      (s₁ = s₂ → n₂ ≤ n₁))) := fun hle => by
    obtain ⟨hh, hle⟩ := hhour.le hle
    refine ⟨hh, fun heq => ?_⟩
    obtain ⟨hm, hle⟩ := hminute.le (hle heq)
    refine ⟨hm, fun heq => ?_⟩
    obtain ⟨hs, hle⟩ := hsecond.le (hle heq)
    exact ⟨hs, fun heq => fraction?_le hsecond.shape hn₁ hn₂ (hle heq)⟩
  split at hcs
  case isFalse => cases hcs
  case isTrue hvalid₁ =>
    split at hds
    case isFalse => cases hds
    case isTrue hvalid₂ =>
      simp only [Option.some.injEq, Prod.mk.injEq] at hcs hds
      obtain ⟨rfl, rfl, -⟩ := hcs
      obtain ⟨rfl, rfl, -⟩ := hds
      rw [nanosPerSecond] at *
      refine ⟨by omega, fun hle => ?_⟩
      have hsteps := hstep hle
      omega

/-! ### Timestamps -/

/-- The offset from UTC that a timestamp has. -/
def offsetIn? (cs : List Char) : Option Int := do
  let (_, cs) ← fixedDate? cs
  let (_, cs) ← oneOf? ['T', 't', ' '] cs
  let (_, _, cs) ← fixedTime? cs
  offset? cs

/-- The texts differ in their digits only, begin with one, and have the same offset from UTC, if
any. -/
structure WrittenAlike (cs ds : List Char) : Prop where
  shape : SameShape cs ds
  begins : cs.head?.any Char.isDigit = true
  offset : offsetIn? cs = offsetIn? ds

theorem WrittenAlike.symm (h : WrittenAlike cs ds) : WrittenAlike ds cs where
  shape := h.shape.symm
  begins := h.shape.head?_isDigit ▸ h.begins
  offset := h.offset.symm

theorem isSome_offsetIn? (cs : List Char) : (offsetIn? cs).isSome = (timestamp? cs).isSome := by
  simp only [offsetIn?, timestamp?, Option.bind_eq_bind]
  cases fixedDate? cs with
  | none => rfl
  | some date =>
    cases hsep : oneOf? ['T', 't', ' '] date.2 with
    | none => simp [hsep]
    | some sep =>
      cases htime : fixedTime? sep.2 with
      | none => simp [hsep, htime]
      | some time => cases hoffset : offset? time.2.2 <;> simp [hsep, htime, hoffset]

theorem isDigit_of_mem_between : ∀ c ∈ ['T', 't', ' '], c.isDigit = false := by
  simp only [List.forall_mem_cons]
  exact ⟨rfl, rfl, rfl, nofun⟩

theorem timestamp?_notAfter {s t : Instant} (h : SameShape cs ds)
    (hoffset : offsetIn? cs = offsetIn? ds) (hcs : timestamp? cs = some s)
    (hds : timestamp? ds = some t) (hle : ¬ cs < ds) : t.NotAfter s := by
  simp only [timestamp?, Option.bind_eq_bind, Option.bind_eq_some_iff, Prod.exists] at hcs hds
  obtain ⟨d, cs₁, hdate₁, c, cs₂, hsep₁, s₁, n₁, cs₃, htime₁, o₁, hoffset₁, hcs⟩ := hcs
  obtain ⟨e, ds₁, hdate₂, c', ds₂, hsep₂, s₂, n₂, ds₃, htime₂, o₂, hoffset₂, hds⟩ := hds
  obtain rfl := Option.some.inj hcs
  obtain rfl := Option.some.inj hds
  have hsame : o₁ = o₂ := by
    simpa [offsetIn?, hdate₁, hsep₁, htime₁, hoffset₁, hdate₂, hsep₂, htime₂, hoffset₂]
      using hoffset
  obtain ⟨hshape, hday⟩ := fixedDate?_step h hdate₁ hdate₂
  obtain ⟨hshape, hbetween⟩ := oneOf?_step isDigit_of_mem_between hshape hsep₁ hsep₂
  obtain ⟨hbound, htime⟩ := fixedTime?_step hshape htime₁ htime₂
  simp only [NotAfter, secondsPerDay]
  rcases hday hle with hlt | ⟨rfl, hrest⟩
  · -- the time of day does not make up for a day
    omega
  · have htime := htime (hbetween.not.mp hrest)
    omega

/-! ### Dates -/

theorem year?_of_begins {year : Int} (hbegins : cs.head?.any Char.isDigit = true)
    (h : year? cs = some (year, cs')) :
    ∃ n : Nat, year = n ∧ digitsUpTo? 4 cs = some (n, cs') := by
  cases cs with
  | nil => cases hbegins
  | cons c cs =>
    have hdigit : c.isDigit = true := hbegins
    have hdrop : (c :: cs).dropWhile Text.isBlank = c :: cs :=
      List.dropWhile_cons_of_neg (by rw [Text.isBlank_of_isDigit hdigit]; decide)
    rw [year?, hdrop] at h
    split at h
    case h_1 heq =>
      obtain ⟨rfl, -⟩ := List.cons.inj heq
      cases hdigit
    case h_2 heq =>
      obtain ⟨rfl, -⟩ := List.cons.inj heq
      cases hdigit
    case h_3 =>
      obtain ⟨⟨n, rest⟩, hread, heq⟩ := Option.map_eq_some_iff.mp h
      obtain ⟨rfl, rfl⟩ := Prod.mk.inj heq
      exact ⟨n, rfl, hread⟩

theorem date?_notAfter {d e : CalendarDay} (h : SameShape cs ds)
    (hbegins : cs.head?.any Char.isDigit = true) (hcs : date? cs = some d)
    (hds : date? ds = some e) (hle : ¬ cs < ds) : (ofDay e).NotAfter (ofDay d) := by
  simp only [date?, Option.bind_eq_bind, Option.bind_eq_some_iff, Prod.exists] at hcs hds
  obtain ⟨y₁, cs₁, hy₁, _, cs₂, hs₁, m₁, cs₃, hm₁, _, cs₄, hs₁', d₁, cs₅, hd₁, hcs⟩ := hcs
  obtain ⟨y₂, ds₁, hy₂, _, ds₂, hs₂, m₂, ds₃, hm₂, _, ds₄, hs₂', d₂, ds₅, hd₂, hds⟩ := hds
  obtain ⟨n₁, rfl, hn₁⟩ := year?_of_begins hbegins hy₁
  obtain ⟨n₂, rfl, hn₂⟩ := year?_of_begins (h.head?_isDigit ▸ hbegins) hy₂
  have hyear := inStep_oneOf? isDigit_of_mem_dash (digitsUpTo?_inStep h hn₁ hn₂) hs₁ hs₂
  have hmonth := inStep_oneOf? isDigit_of_mem_dash (monthOrDay?_inStep hyear.shape hm₁ hm₂) hs₁'
    hs₂'
  have hday := monthOrDay?_inStep hmonth.shape hd₁ hd₂
  split at hcs
  case isFalse => cases hcs
  case isTrue hvalid₁ =>
    split at hds
    case isFalse => cases hds
    case isTrue hvalid₂ =>
      obtain rfl := Option.some.inj hcs
      obtain rfl := Option.some.inj hds
      have hnumber := number_le_of_inStep (d := ⟨n₁, m₁, d₁⟩) (e := ⟨n₂, m₂, d₂⟩) rfl rfl hvalid₁.2
        hvalid₂.2 hyear hmonth hday hle
      rw [NotAfter, ofDay, ofDay, secondsPerDay]
      rcases hnumber with hlt | ⟨heq, -⟩
      · left
        exact Int.mul_lt_mul_of_pos_right hlt (by decide)
      · rw [heq]
        exact .inr ⟨rfl, Nat.le_refl 0⟩

/-! ### Both forms -/

/-- **The order of texts that denote instants and are written alike is that of the instants.** -/
theorem notAfter_of_writtenAlike {s t : Instant} (h : WrittenAlike cs ds)
    (hs : ofChars? cs = some s) (ht : ofChars? ds = some t) (hle : ¬ cs < ds) : t.NotAfter s := by
  have hforms : (timestamp? cs).isSome = (timestamp? ds).isSome := by
    rw [← isSome_offsetIn?, ← isSome_offsetIn?, h.offset]
  rw [ofChars?] at hs ht
  cases hcs : timestamp? cs with
  | some s' =>
    rw [hcs, Option.isSome_some] at hforms
    obtain ⟨t', hds⟩ := Option.isSome_iff_exists.mp hforms.symm
    rw [hcs] at hs
    rw [hds] at ht
    obtain rfl := Option.some.inj hs
    obtain rfl := Option.some.inj ht
    exact timestamp?_notAfter h.shape h.offset hcs hds hle
  | none =>
    rw [hcs, Option.isSome_none] at hforms
    have hds := Option.isSome_eq_false_iff.mp hforms.symm
    rw [hcs, Option.none_or] at hs
    rw [Option.isNone_iff_eq_none.mp hds, Option.none_or] at ht
    obtain ⟨d, hd, rfl⟩ := Option.map_eq_some_iff.mp hs
    obtain ⟨e, he, rfl⟩ := Option.map_eq_some_iff.mp ht
    exact date?_notAfter h.shape h.begins hd he hle

end GuardedSearch.Instant
