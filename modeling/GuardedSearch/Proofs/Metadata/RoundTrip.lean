import GuardedSearch.Proofs.Catalog.Checked
import GuardedSearch.Proofs.Json.Printing
import GuardedSearch.Proofs.Json.Records

/-!
# Metadata documents are read back

A document can be written in many ways: fields may be left out or go by other names, types may be
called by any name, records may be arrays. It is printed in one way only, and what is printed is
read again as the document that it was printed for, entity by entity and rule by rule. So saving and
reloading changes nothing, whatever way the document was written in at first.

Printing and decoding meet at the value of the document. That the value is read from its text
depends on its numbers, which have to fit 64 bits; that they do is kept by every record as it is
decoded.

## Main definitions

* `Metadata.IdsFit` — all numbers in a document fit 64 bits

## Main results

* `Metadata.inverts_decode` — a document is decoded from its value, at a place with room enough
* `Metadata.keeps_decode` — a document that was decoded from a text has numbers that fit
* `Metadata.read_back` — documents are read back from what is printed for them
-/

namespace GuardedSearch

open Decoder (Inverts)

/-! ### Decoding what was printed -/

theorem Property.inverts_decode (x : Property) : Inverts record.decode toJson 1 x := by
  obtain ⟨id, name, type, path, target⟩ := x
  refine Record.inverts_decode rfl
    ⟨some id, some name, some type, path.map some, target.map some⟩ (fun inner _ => ?_) ?_
  · cases path <;> cases target <;>
      simp [Record.fillMembers, record, Raw.ofMembers, Raw.ofJson, Json.ofNat, Decoder.once,
        Decoder.natural, Decoder.string, DataType.decoder, Decoder.optional, Raw.unlessNull]
  · cases path <;> cases target <;> rfl

theorem Entity.inverts_decode (x : Entity) : Inverts record.decode toJson 3 x := by
  refine Record.inverts_decode rfl
    ⟨some x.id, some x.name, some x.isRoot, some x.properties⟩ (fun inner hroom => ?_) rfl
  have hproperties : Decoder.list Property.record.decode inner
      (Raw.ofJson (.array (x.properties.map Property.toJson))) = .ok x.properties :=
    Inverts.list (fun p _ => Property.inverts_decode p) inner hroom
  rw [Raw.ofMembers, Record.fillMembers_cons (by decide) (by rfl), Raw.ofMembers,
    Record.fillMembers_cons (by decide) (by rfl), Raw.ofMembers,
    Record.fillMembers_cons (by decide) (by rfl), Raw.ofMembers]
  simp [Record.fillMembers, record, Decoder.once, Raw.ofMembers, hproperties]

theorem PropertyReference.inverts_decode (x : PropertyReference) :
    Inverts record.decode toJson 1 x :=
  Record.inverts_decode rfl ⟨some x.entity, some x.property⟩ (fun _ _ => rfl) rfl

theorem RuleOperator.inverts_decoder (x : RuleOperator) :
    Inverts decoder (fun x => .string x.name) 0 x := by
  intro p _
  cases x <;> rfl

theorem RuleCondition.inverts_decode (x : RuleCondition) : Inverts record.decode toJson 2 x := by
  refine Record.inverts_decode rfl ⟨some x.property, some x.operator, some x.values⟩
    (fun inner hroom => ?_) rfl
  have hproperty := x.property.inverts_decode inner hroom
  have hvalues : Decoder.list Decoder.string inner (Raw.ofJson (.ofStrings x.values)) =
      .ok x.values :=
    Inverts.list (fun s _ => Decoder.inverts_string s) inner hroom
  have hoperator : RuleOperator.decoder inner (Raw.ofJson (.string x.operator.name)) =
      .ok x.operator :=
    x.operator.inverts_decoder inner (fun _ _ => Nat.zero_le _)
  simp [Record.fillMembers, record, Decoder.once, Raw.ofMembers, hproperty, hoperator, hvalues]

theorem AccessRule.inverts_decode (x : AccessRule) : Inverts record.decode toJson 4 x := by
  refine Record.inverts_decode rfl
    ⟨some x.id, some x.name, some x.active, some x.target, some x.conditions⟩
    (fun inner hroom => ?_) rfl
  have hconditions : Decoder.list RuleCondition.record.decode inner
      (Raw.ofJson (.array (x.conditions.map RuleCondition.toJson))) = .ok x.conditions :=
    Inverts.list (fun c _ => c.inverts_decode) inner hroom
  rw [Raw.ofMembers, Record.fillMembers_cons (by decide) (by rfl), Raw.ofMembers,
    Record.fillMembers_cons (by decide) (by rfl), Raw.ofMembers,
    Record.fillMembers_cons (by decide) (by rfl), Raw.ofMembers,
    Record.fillMembers_cons (by decide) (by rfl), Raw.ofMembers]
  simp [Record.fillMembers, record, Decoder.once, Raw.ofMembers, hconditions]

/-- **A document is decoded from its value**, as soon as six levels may be entered. -/
theorem Metadata.inverts_decode (x : Metadata) : Inverts record.decode toJson 6 x := by
  refine Record.inverts_decode rfl ⟨some x.entities, some x.rules⟩ (fun inner hroom => ?_) rfl
  have hentities : Decoder.list Entity.record.decode inner
      (Raw.ofJson (.array (x.entities.map Entity.toJson))) = .ok x.entities :=
    Inverts.list (fun e _ => e.inverts_decode.mono (by decide)) inner hroom
  have hrules : Decoder.list AccessRule.record.decode inner
      (Raw.ofJson (.array (x.rules.map AccessRule.toJson))) = .ok x.rules :=
    Inverts.list (fun r _ => r.inverts_decode) inner hroom
  simp [Record.fillMembers, record, Decoder.once, Raw.ofMembers, hentities, hrules]

/-! ### Identifiers -/

/-- The number of the property fits 64 bits. -/
def Property.IdFits (x : Property) : Prop :=
  Text.fitsUInt64 x.id = true

/-- The numbers of the entity and of its properties fit 64 bits. -/
structure Entity.IdsFit (x : Entity) : Prop where
  id : Text.fitsUInt64 x.id = true
  properties : ∀ p ∈ x.properties, p.IdFits

/-- The number of the rule fits 64 bits. -/
def AccessRule.IdFits (x : AccessRule) : Prop :=
  Text.fitsUInt64 x.id = true

/-- All numbers in the document fit 64 bits. -/
structure Metadata.IdsFit (m : Metadata) : Prop where
  entities : ∀ e ∈ m.entities, e.IdsFit
  rules : ∀ r ∈ m.rules, r.IdFits

theorem Property.keeps_decode : Decoder.Keeps record.decode IdFits := by
  have hfill : record.FillKeeps fun d => Text.fitsUInt64 (d.id.getD 0 : Nat) = true := by
    intro p d name r next hr hd h
    simp only [record] at h
    split at h
    case h_1 =>
      obtain ⟨id, hid, ⟨⟩⟩ := bind_eq_ok_iff.mp h
      exact (Decoder.keeps_natural "u64").once hr hid 0
    case h_6 =>
      cases h
      exact hd
    all_goals
      obtain ⟨_, -, ⟨⟩⟩ := bind_eq_ok_iff.mp h
      exact hd
  refine hfill.decode rfl fun d x hd h => ?_
  simp only [record] at h
  split at h
  · cases h
  · cases h
    exact hd

theorem Entity.keeps_decode : Decoder.Keeps record.decode IdsFit := by
  have hfill : record.FillKeeps fun d => Text.fitsUInt64 (d.id.getD 0 : Nat) = true ∧
      ∀ p ∈ d.properties.getD [], p.IdFits := by
    rintro p d name r next hr ⟨hid, hproperties⟩ h
    simp only [record] at h
    split at h
    case h_1 =>
      obtain ⟨id, hid, ⟨⟩⟩ := bind_eq_ok_iff.mp h
      exact ⟨(Decoder.keeps_natural "u64").once hr hid 0, hproperties⟩
    case h_4 =>
      obtain ⟨ps, hps, ⟨⟩⟩ := bind_eq_ok_iff.mp h
      exact ⟨hid, Property.keeps_decode.list.once hr hps []⟩
    case h_5 =>
      cases h
      exact ⟨hid, hproperties⟩
    all_goals
      obtain ⟨_, -, ⟨⟩⟩ := bind_eq_ok_iff.mp h
      exact ⟨hid, hproperties⟩
  refine hfill.decode ⟨rfl, List.forall_mem_nil _⟩ ?_
  rintro d x ⟨hid, hproperties⟩ h
  simp only [record] at h
  split at h
  · cases h
  · cases h
    exact ⟨hid, hproperties⟩

theorem AccessRule.keeps_decode : Decoder.Keeps record.decode IdFits := by
  have hfill : record.FillKeeps fun d => Text.fitsUInt64 (d.id.getD 0 : Nat) = true := by
    intro p d name r next hr hd h
    simp only [record] at h
    split at h
    case h_1 =>
      obtain ⟨id, hid, ⟨⟩⟩ := bind_eq_ok_iff.mp h
      exact (Decoder.keeps_natural "u64").once hr hid 0
    case h_6 =>
      cases h
      exact hd
    all_goals
      obtain ⟨_, -, ⟨⟩⟩ := bind_eq_ok_iff.mp h
      exact hd
  refine hfill.decode rfl fun d x hd h => ?_
  simp only [record] at h
  split at h
  · cases h
  · cases h
  · cases h
    exact hd

/-- **What is decoded from a text has numbers that fit 64 bits.** -/
theorem Metadata.keeps_decode : Decoder.Keeps record.decode IdsFit := by
  have hfill : record.FillKeeps fun d => (∀ e ∈ d.entities.getD [], e.IdsFit) ∧
      ∀ r ∈ d.rules.getD [], r.IdFits := by
    rintro p d name r next hr ⟨hentities, hrules⟩ h
    simp only [record] at h
    split at h
    case h_1 =>
      obtain ⟨es, hes, ⟨⟩⟩ := bind_eq_ok_iff.mp h
      exact ⟨Entity.keeps_decode.list.once hr hes [], hrules⟩
    case h_2 =>
      obtain ⟨rs, hrs, ⟨⟩⟩ := bind_eq_ok_iff.mp h
      exact ⟨hentities, AccessRule.keeps_decode.list.once hr hrs []⟩
    case h_3 =>
      cases h
      exact ⟨hentities, hrules⟩
  refine hfill.decode ⟨List.forall_mem_nil _, List.forall_mem_nil _⟩ ?_
  rintro d x ⟨hentities, hrules⟩ h
  cases h
  exact ⟨hentities, hrules⟩

/-! ### Printed documents -/

theorem Json.whole_ofNat {n : Nat} (h : Text.fitsUInt64 n = true) : (Json.ofNat n).Whole := by
  rw [Text.fitsUInt64, Bool.and_eq_true, decide_eq_true_iff, decide_eq_true_iff] at h
  refine .number (Int.le_trans ?_ h.1) h.2
  decide

theorem Json.whole_ofStrings (texts : List String) : (Json.ofStrings texts).Whole :=
  .list fun s _ => .string s

theorem Property.whole_toJson {x : Property} (h : x.IdFits) : x.toJson.Whole := by
  refine .object fun m hm => ?_
  rcases List.mem_append.mp hm with hm | hm
  · rcases List.mem_append.mp hm with hm | hm
    · simp only [List.mem_cons, List.not_mem_nil, or_false] at hm
      rcases hm with rfl | rfl | rfl
      · exact Json.whole_ofNat h
      · exact .string _
      · exact .string _
    · obtain ⟨path, -, rfl⟩ := Option.map_eq_some_iff.mp (Option.mem_toList.mp hm)
      exact .string path
  · obtain ⟨target, -, rfl⟩ := Option.map_eq_some_iff.mp (Option.mem_toList.mp hm)
    exact .string target

theorem Entity.whole_toJson {x : Entity} (h : x.IdsFit) : x.toJson.Whole := by
  refine .object ?_
  simp only [List.forall_mem_cons, List.not_mem_nil, false_imp_iff, implies_true, and_true]
  exact ⟨Json.whole_ofNat h.id, .string _, .bool _,
    .list fun p hp => Property.whole_toJson (h.properties p hp)⟩

theorem RuleCondition.whole_toJson (x : RuleCondition) : x.toJson.Whole := by
  refine .object ?_
  simp only [List.forall_mem_cons, List.not_mem_nil, false_imp_iff, implies_true, and_true]
  refine ⟨.object ?_, .string _, Json.whole_ofStrings _⟩
  simp only [List.forall_mem_cons, List.not_mem_nil, false_imp_iff, implies_true, and_true]
  exact ⟨.string _, .string _⟩

theorem AccessRule.whole_toJson {x : AccessRule} (h : x.IdFits) : x.toJson.Whole := by
  refine .object ?_
  simp only [List.forall_mem_cons, List.not_mem_nil, false_imp_iff, implies_true, and_true]
  exact ⟨Json.whole_ofNat h, .string _, .bool _, .string _, .list fun c _ => c.whole_toJson⟩

theorem Metadata.whole_toJson {m : Metadata} (h : m.IdsFit) : m.toJson.Whole := by
  refine .object ?_
  simp only [List.forall_mem_cons, List.not_mem_nil, false_imp_iff, implies_true, and_true]
  exact ⟨.list fun e he => Entity.whole_toJson (h.entities e he),
    .list fun r hr => AccessRule.whole_toJson (h.rules r hr)⟩

/-! ### Texts -/

namespace Metadata

theorem idsFit_of_ofText? {text : String} {m : Metadata} (h : ofText? text = .ok m) : m.IdsFit := by
  obtain ⟨x, hx, h⟩ := bind_eq_ok_iff.mp h
  have hfits : x.IdsFit := keeps_decode _ _ x (JsonText.fits_ofChars text.toList) hx
  split at h
  · cases h
  · cases h
    exact hfits

/-- A text that is read as the value of a document is decoded as the document. -/
theorem ofText?_of_read {text : String} {m : Metadata}
    (h : JsonText.read text = ⟨Raw.ofJson m.toJson, none⟩) : ofText? text = .ok m := by
  have hdecode : record.decode ⟨.text, Raw.textRoom⟩ (Raw.ofJson m.toJson) = .ok m :=
    m.inverts_decode ⟨.text, Raw.textRoom⟩ (by rintro _ ⟨⟩; decide)
  rw [ofText?, Decoder.runText, h]
  simp only [hdecode, ok_bind]
  rfl

/-- Both printed forms of a document are decoded as the document. -/
theorem ofText?_of_isPrinted {m : Metadata} (h : m.IdsFit) {text : String}
    (htext : text = m.toJson.toCompact ∨ text = m.toJson.toIndented) : ofText? text = .ok m := by
  rcases htext with rfl | rfl
  · exact ofText?_of_read (JsonText.read_toCompact (whole_toJson h))
  · exact ofText?_of_read (JsonText.read_toIndented (whole_toJson h))

/-- **Documents are read back.** Every document with numbers of 64 bits is decoded from either form
that is printed for it. So a document that was decoded from any text at all is decoded again from
what is then printed, and a catalog can be built of what comes back exactly if one can be built of
it. -/
theorem read_back :
    (∀ m : Metadata, m.IdsFit → ∀ printed,
      printed = m.toJson.toCompact ∨ printed = m.toJson.toIndented → ofText? printed = .ok m) ∧
    ∀ text m, ofText? text = .ok m → ∀ printed,
      printed = m.toJson.toCompact ∨ printed = m.toJson.toIndented →
        ofText? printed = .ok m ∧
          ∀ again, ofText? printed = .ok again →
            ((∃ c, Catalog.build again = .ok c) ↔ ∃ c, Catalog.build m = .ok c) := by
  refine ⟨fun m hm printed => ofText?_of_isPrinted hm, fun text m htext printed hprinted => ?_⟩
  have hread := ofText?_of_isPrinted (idsFit_of_ofText? htext) hprinted
  refine ⟨hread, fun again hagain => ?_⟩
  cases hread.symm.trans hagain
  exact Iff.rfl

/-- A text that says no more than it has to about tasks, and says it by other names. -/
def taskText : String :=
  "\x7b\"entities\": [\x7b\"name\": \"Task\", \"properties\": [[1, \"owner\", \" Text \"]]\x7d]\x7d"

theorem ofText?_taskText :
    ofText? taskText = .ok ⟨[⟨0, "Task", false, [.field 1 "owner" .string]⟩], []⟩ := by
  have hdecoded : (ofText? taskText).toOption =
      some ⟨[⟨0, "Task", false, [.field 1 "owner" .string]⟩], []⟩ := by
    decide +kernel
  cases hm : ofText? taskText with
  | ok m =>
    rw [hm] at hdecoded
    exact congrArg Except.ok (Option.some.inj hdecoded)
  | error e =>
    rw [hm] at hdecoded
    cases hdecoded

/-- The document of tasks is read back from one line, and what has been read from the text above
from a line for each member and item. -/
theorem read_back_tasks :
    let tasks : Metadata := ⟨[⟨0, "Task", false, [.field 1 "owner" .string]⟩], []⟩
    ofText? taskMetadata.toJson.toCompact = .ok taskMetadata ∧
      ofText? taskText = .ok tasks ∧ ofText? tasks.toJson.toIndented = .ok tasks := by
  have hids : taskMetadata.IdsFit :=
    ⟨List.forall_mem_singleton.mpr ⟨rfl, List.forall_mem_singleton.mpr rfl⟩,
      List.forall_mem_singleton.mpr rfl⟩
  exact ⟨read_back.1 taskMetadata hids _ (.inl rfl), ofText?_taskText,
    (read_back.2 taskText _ ofText?_taskText _ (.inr rfl)).1⟩

end Metadata

end GuardedSearch
