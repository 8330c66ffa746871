import GuardedSearch.Proofs.Json.Decoding
import GuardedSearch.Proofs.Json.Texts

/-!
# Decoding records

How deep a decoder may go depends on where its tree comes from. What is decoded from a value that
is not nested too deeply does not: the decoders of records look at the origin only to word their
faults.

## Main definitions

* `Place.HasRoom` — a decoder may go that much deeper
* `Decoder.Inverts` — a decoder makes of a value what the value was made of
* `Decoder.Keeps` — what a decoder makes of a tree has a property, if the numbers in the tree fit
* `Record.FillKeeps` — a draft has a property whatever field of it is filled next

## Main results

* `Record.inverts_decode` — a record is decoded from an object whose members fill a draft of it
* `Record.FillKeeps.decode` — what every draft has the record has, as an object or as an array
-/

namespace GuardedSearch

/-! ### Room -/

/-- A decoder may go that much deeper. -/
def Place.HasRoom (p : Place) (depth : Nat) : Prop :=
  ∀ n, p.room = some n → depth ≤ n

theorem Place.HasRoom.exists_enter {p : Place} {depth : Nat} (h : p.HasRoom (depth + 1)) :
    ∃ inner, p.enter = .ok inner ∧ inner.HasRoom depth := by
  obtain ⟨origin, room⟩ := p
  rcases room with _ | _ | n
  · exact ⟨⟨origin, none⟩, rfl, by rintro _ ⟨⟩⟩
  · exact absurd (h 0 rfl) (Nat.not_succ_le_zero depth)
  · refine ⟨⟨origin, some n⟩, rfl, ?_⟩
    rintro _ ⟨⟩
    exact Nat.le_of_succ_le_succ (h (n + 1) rfl)

/-! ### Decoders and printers -/

namespace Decoder

variable {α : Type}

/-- Where there is room enough, the decoder makes of a value what the value was made of. -/
def Inverts (decode : Decoder α) (toJson : α → Json) (depth : Nat) (a : α) : Prop :=
  ∀ p : Place, p.HasRoom depth → decode p (Raw.ofJson (toJson a)) = .ok a

/-- **A list is decoded item by item.** -/
theorem Inverts.list {decode : Decoder α} {toJson : α → Json} {depth : Nat} {as : List α}
    (h : ∀ a ∈ as, Inverts decode toJson depth a) :
    Inverts (Decoder.list decode) (fun as => .array (as.map toJson)) (depth + 1) as := by
  intro p hp
  obtain ⟨inner, hinner, hroom⟩ := hp.exists_enter
  have hitems : (as.map (Raw.ofJson ∘ toJson)).mapM (decode inner) = .ok as := by
    rw [mapM_eq_ok_iff, List.forall₂_map_left_iff, List.forall₂_same]
    exact fun a ha => h a ha inner hroom
  rw [Raw.ofJson, Raw.ofItems_eq_map, List.map_map, Decoder.list, hinner]
  simp only [ok_bind, hitems]
  rfl

theorem Inverts.mono {decode : Decoder α} {toJson : α → Json} {depth more : Nat} {a : α}
    (h : Inverts decode toJson depth a) (hle : depth ≤ more) : Inverts decode toJson more a :=
  fun p hp => h p fun n hn => Nat.le_trans hle (hp n hn)

theorem inverts_string (s : String) : Inverts Decoder.string Json.string 0 s :=
  fun _ _ => rfl

end Decoder

namespace Record

variable {σ α : Type} {record : Record σ α}

theorem fillMembers_cons {p : Place} {draft next : σ} {key : String} {r : Raw}
    {rest : List (Raw.Name × Raw)} (hkey : record.canonical key ∈ record.fields)
    (hfill : record.fill p draft (record.canonical key) r = .ok next) :
    record.fillMembers p draft ((.ok key, r) :: rest) = record.fillMembers p next rest := by
  rw [fillMembers, if_pos hkey, hfill]
  rfl

/-- **A record is decoded from an object** whose members fill a draft of it, wherever there is room
for what they hold. -/
theorem inverts_decode {toJson : α → Json} {members : List (String × Json)} {depth : Nat} {a : α}
    (hjson : toJson a = .object members) (draft : σ)
    (hfill : ∀ inner : Place, inner.HasRoom depth →
      record.fillMembers inner record.blank (Raw.ofMembers members) = .ok draft)
    (hcomplete : record.complete draft = .ok a) :
    Decoder.Inverts record.decode toJson (depth + 1) a := by
  intro p hp
  obtain ⟨inner, hinner, hroom⟩ := hp.exists_enter
  simp only [hjson, Raw.ofJson, decode, hinner, hfill inner hroom, hcomplete, ok_bind, Raw.atEnd,
    Place.notJson]
  rfl

end Record

/-! ### Numbers in records

The numbers in a text fit 64 bits, and so do those that are decoded from it. -/

namespace Decoder

variable {α : Type}

/-- What is decoded from a tree has a property, if all numbers in the tree fit 64 bits. -/
def Keeps (decode : Decoder α) (P : α → Prop) : Prop :=
  ∀ (p : Place) (r : Raw) (a : α), r.Fits → decode p r = .ok a → P a

theorem keeps_natural (kind : String) :
    Keeps (natural kind) fun n => Text.fitsUInt64 n = true := by
  intro p r n hr h
  rw [natural.eq_def] at h
  split at h
  case h_1 m =>
    split at h
    case isTrue hpos =>
      cases h
      obtain ⟨-, hgreatest⟩ : Json.Number.Fits (.whole m) := by
        cases hr with
        | number hm => exact hm
      rw [Text.fitsUInt64, Int.toNat_of_nonneg hpos, Bool.and_eq_true, decide_eq_true_iff,
        decide_eq_true_iff]
      exact ⟨hpos, hgreatest⟩
    case isFalse => cases h
  case h_2 => cases h

theorem Keeps.list {decode : Decoder α} {P : α → Prop} (hdecode : Keeps decode P) :
    Keeps (Decoder.list decode) fun as => ∀ a ∈ as, P a := by
  intro p r as hr h
  cases hr with
  | array cut hitems =>
    simp only [Decoder.list, bind_eq_ok_iff, pure_eq_ok_iff] at h
    obtain ⟨inner, -, values, hvalues, -, -, rfl⟩ := h
    intro a ha
    obtain ⟨r, hr, ha⟩ := exists_of_mem_mapM hvalues ha
    exact hdecode inner r a (hitems r hr) ha
  | _ => cases h

/-- What fills the place of a field has the property, whatever stands there by default. -/
theorem Keeps.once {decode : Decoder α} {P : α → Prop} (hdecode : Keeps decode P) {p : Place}
    {r : Raw} (hr : r.Fits) {name : String} {place filled : Option α}
    (h : Decoder.once name place (decode p r) = .ok filled) (default : α) :
    P (filled.getD default) := by
  obtain ⟨-, a, ha, rfl⟩ := once_eq_ok_iff.mp h
  exact hdecode p r a hr ha

end Decoder

namespace Record

variable {σ α : Type} {record : Record σ α} {I : σ → Prop}

/-- Filling the place of a field keeps something true of drafts. -/
def FillKeeps (record : Record σ α) (I : σ → Prop) : Prop :=
  ∀ (p : Place) (d : σ) (name : String) (r : Raw) (next : σ), r.Fits → I d →
    record.fill p d name r = .ok next → I next

theorem FillKeeps.members (hfill : record.FillKeeps I) {p : Place}
    {members : List (Raw.Name × Raw)} (hmembers : ∀ m ∈ members, m.2.Fits) {d last : σ} (hd : I d)
    (h : record.fillMembers p d members = .ok last) : I last := by
  induction members generalizing d with
  | nil =>
    cases h
    exact hd
  | cons m rest ih =>
    obtain ⟨hr, hrest⟩ := List.forall_mem_cons.mp hmembers
    obtain ⟨_ | key, r⟩ := m
    · cases h
    · rw [fillMembers] at h
      split at h
      · obtain ⟨next, hnext, h⟩ := bind_eq_ok_iff.mp h
        exact ih hrest (hfill p d _ r next hr hd hnext) h
      · split at h
        · cases h
        · exact ih hrest hd h

theorem FillKeeps.items (hfill : record.FillKeeps I) {p : Place} {names : List String}
    {items : List Raw} (hitems : ∀ r ∈ items, r.Fits) {d : σ} {last : σ × List Raw} (hd : I d)
    (h : record.fillItems p d names items = .ok last) : I last.1 := by
  induction names generalizing d items with
  | nil =>
    cases h
    exact hd
  | cons name names ih =>
    cases items with
    | nil =>
      cases h
      exact hd
    | cons r rest =>
      obtain ⟨hr, hrest⟩ := List.forall_mem_cons.mp hitems
      obtain ⟨next, hnext, h⟩ := bind_eq_ok_iff.mp h
      exact ih hrest (hfill p d name r next hr hd hnext) h

/-- **What is true of all drafts is true of the record**, in either way of writing it. -/
theorem FillKeeps.decode (hfill : record.FillKeeps I) (hblank : I record.blank) {P : α → Prop}
    (hcomplete : ∀ d a, I d → record.complete d = .ok a → P a) :
    Decoder.Keeps record.decode P := by
  intro p r a hr h
  cases hr with
  | object cut hmembers =>
    simp only [Record.decode, bind_eq_ok_iff] at h
    obtain ⟨inner, -, draft, hdraft, -, -, h⟩ := h
    split at h
    case h_1 b hb =>
      cases h
      exact hcomplete draft _ (hfill.members hmembers hblank hdraft) hb
    case h_2 => cases h
  | array cut hitems =>
    simp only [Record.decode, bind_eq_ok_iff] at h
    obtain ⟨inner, -, ⟨draft, rest⟩, hdraft, h⟩ := h
    have hlast := hfill.items hitems hblank hdraft
    dsimp only at h hlast
    cases hrest : rest.isEmpty with
    | true =>
      rw [hrest, if_pos rfl] at h
      obtain ⟨-, -, h⟩ := bind_eq_ok_iff.mp h
      split at h
      case h_1 => cases h
      case h_2 b hb =>
        cases h
        exact hcomplete draft _ hlast hb
    | false =>
      -- Items that are left over are a fault, whatever the draft is.
      rw [hrest, if_neg Bool.false_ne_true] at h
      split at h
      · cases h
      · cases horigin : p.origin <;> simp [horigin] at h
  | _ => cases h

end Record

end GuardedSearch
