import GuardedSearch.Condition.Printer
import GuardedSearch.Proofs.Condition.Canonical
import GuardedSearch.Proofs.Json.Texts
import GuardedSearch.Proofs.Lookup

/-!
# Writing conditions and reading them back

The reader and the writer of conditions share neither code nor order: the reader fills a draft and
takes the operators out of it in the order in which they apply, the writer looks for each attribute
among the operators in the order of the attributes of an array. Between them stands the grammar.
What is written for a canonical condition is a node that says this condition, and so that is what is
read.

The one step that is not bookkeeping is that the operators are found again in their order, among
attributes in another one (`Condition.present_operatorOrder_field`).

## Main results

* `Condition.node_toJson` — what is written for a canonical condition says it
* `Condition.canonical_read_back` — what can be read, written and read again
-/

namespace GuardedSearch

/-! ### Literals and operators -/

theorem Literal.written_toJson {l : Literal} (h : l.Canonical) : Literal.Written l.toJson l := by
  cases l with
  | int n => exact .int h.1 h.2
  | double x =>
    cases x with
    | finite x => exact .double x
    | nan | infinite => cases h
  | bool b => exact .bool b
  | string s => exact .string s
  | date t => exact h.elim

theorem Operator.written_operandJson {op : Operator} (h : op.Canonical) :
    Operator.Written (op.name, op.operandJson) op := by
  cases op with
  | eq v => exact .eq (Literal.written_toJson h)
  | contains part => exact .contains part
  | startsWith start => exact .startsWith start
  | oneOf vs =>
    refine .oneOf (List.forall₂_map_left_iff.mpr (List.forall₂_same.mpr fun v hv => ?_))
    exact Literal.written_toJson (h v hv)
  | gt v => exact .gt (Literal.written_toJson h)
  | gte v => exact .gte (Literal.written_toJson h)
  | lt v => exact .lt (Literal.written_toJson h)
  | lte v => exact .lte (Literal.written_toJson h)

/-- Null writes down no operator. -/
theorem Operator.Written.ne_null {a : String × Json} {op : Operator} (h : Operator.Written a op) :
    a.2 ≠ .null := by
  cases h with
  | contains | startsWith | oneOf => exact nofun
  | eq hl | gt hl | gte hl | lt hl | lte hl => cases hl <;> exact nofun

theorem Literal.fits_toJson {l : Literal} (h : l.Canonical) : l.toJson.Fits := by
  cases l with
  | int n =>
    have hgreatest : Text.int64Greatest ≤ Text.uint64Greatest := by decide
    exact .number ⟨h.1, Int.le_trans h.2 hgreatest⟩
  | double x =>
    cases x with
    | finite x => exact .number trivial
    | nan | infinite => cases h
  | bool b => exact .bool b
  | string s => exact .string s
  | date t => exact h.elim

theorem Operator.fits_operandJson {op : Operator} (h : op.Canonical) : op.operandJson.Fits := by
  cases op with
  | eq | gt | gte | lt | lte => exact Literal.fits_toJson h
  | contains s | startsWith s => exact .string s
  | oneOf vs => exact .array (List.forall_mem_map.mpr fun v hv => Literal.fits_toJson (h v hv))

theorem Operator.name_mem_operatorNames (op : Operator) :
    op.name ∈ Condition.operatorNames := by
  cases op <;> simp [name, Condition.operatorNames]

namespace Condition

/-! ### Attributes of operators -/

section

variable {operators : List Operator}

/-- The names that have an attribute stand in the order in which they are written. -/
theorem names_attributes_sublist (operators : List Operator) :
    (Table.names (operatorNames.filterMap (attribute? operators))).Sublist operatorNames := by
  refine Table.names_filterMap_sublist (fun name entry hentry => ?_) operatorNames
  obtain ⟨op, -, rfl⟩ := Option.map_eq_some_iff.mp hentry
  rfl

/-- If no operator occurs twice, an attribute that is written is that of an operator. -/
theorem mem_attributes_iff (hnodup : (operators.map Operator.name).Nodup) {name : String}
    {v : Json} :
    (name, v) ∈ operatorNames.filterMap (attribute? operators) ↔
      ∃ op ∈ operators, op.name = name ∧ op.operandJson = v := by
  have hreverse : (operators.reverse.map Operator.name).Nodup := by
    rwa [List.map_reverse, List.nodup_reverse]
  simp only [List.mem_filterMap, attribute?, Option.map_eq_some_iff, Prod.mk.injEq,
    find?_eq_some_iff_of_nodup hreverse, List.mem_reverse]
  constructor
  · rintro ⟨name, -, op, ⟨hop, hname⟩, rfl, hv⟩
    exact ⟨op, hop, hname, hv⟩
  · rintro ⟨op, hop, rfl, hv⟩
    exact ⟨op.name, op.name_mem_operatorNames, op, ⟨hop, rfl⟩, rfl, hv⟩

/-- The attributes of a condition on a field have different names. -/
theorem nodup_names_field (name : String) (operators : List Operator) :
    (Table.names (("field", Json.string name) ::
      operatorNames.filterMap (attribute? operators))).Nodup := by
  have hsub := names_attributes_sublist operators
  have hfield : "field" ∉ operatorNames := by decide
  exact List.nodup_cons.mpr ⟨fun hmem => hfield (hsub.mem hmem), hsub.nodup (by decide)⟩

/-- What is given for an operator's name is the operand of that operator. -/
theorem given?_field {name : String} (hnodup : (operators.map Operator.name).Nodup)
    (hoperators : ∀ op ∈ operators, op.Canonical) {key : String} (hkey : key ≠ "field") :
    given? (("field", .string name) :: operatorNames.filterMap (attribute? operators)) key =
      (operators.find? fun op => op.name == key).map Operator.operandJson := by
  refine Option.ext fun v => ?_
  rw [given?_eq_some_iff, Table.value?_eq_some_iff (nodup_names_field name operators),
    List.mem_cons, mem_attributes_iff hnodup, Option.map_eq_some_iff]
  simp only [find?_eq_some_iff_of_nodup hnodup, Prod.mk.injEq, hkey, false_and, false_or]
  constructor
  · rintro ⟨⟨op, hop, hname, hv⟩, -⟩
    exact ⟨op, ⟨hop, hname⟩, hv⟩
  · rintro ⟨op, ⟨hop, hname⟩, rfl⟩
    exact ⟨⟨op, hop, hname, rfl⟩, (Operator.written_operandJson (hoperators op hop)).ne_null⟩

/-- The attributes of operators are present in the order in which the operators apply. -/
theorem present_operatorOrder_field {name : String}
    (hsub : (operators.map Operator.name).Sublist operatorOrder)
    (hoperators : ∀ op ∈ operators, op.Canonical) :
    present operatorOrder
        (("field", .string name) :: operatorNames.filterMap (attribute? operators)) =
      operators.map fun op => (op.name, op.operandJson) := by
  have hnodup : (operators.map Operator.name).Nodup := hsub.nodup (by decide)
  have hfound : ∀ key ∈ operatorOrder,
      (given? (("field", .string name) :: operatorNames.filterMap (attribute? operators)) key).map
          (fun v => (key, v)) =
        (operators.find? fun op => op.name == key).map fun op => (op.name, op.operandJson) := by
    intro key hkey
    have hfield : key ≠ "field" := by
      rintro rfl
      exact absurd hkey (by decide)
    rw [given?_field hnodup hoperators hfield, Option.map_map]
    refine Option.map_congr fun op hop => ?_
    have hname : op.name = key := ((find?_eq_some_iff_of_nodup hnodup).mp hop).2
    rw [Function.comp_apply, hname]
  rw [present, List.filterMap_congr hfound, ← List.map_filterMap,
    filterMap_find? (by decide) hsub]

end

/-! ### Nodes -/

/-- A value under the name of a combination is a node that says what is combined. -/
theorem node_of_group {key : String} {v : Json} {c : Condition} (hv : v ≠ .null)
    (h : Group (key, v) c) : Node (.object [(key, v)]) c := by
  have hkey : key ∈ groupOrder := by cases h <;> simp [groupOrder]
  have hpresent : present groupOrder [(key, v)] = [(key, v)] := by
    cases h <;> simp [present, groupOrder, given?, Table.value?, hv]
  have hothers : ∀ other, key ≠ other → given? [(key, v)] other = none := by
    intro other hother
    simp [given?, Table.value?, hother]
  refine @Node.mk _ _ none [] [c] (.object _) (List.nodup_singleton key) ?_ ?_ ?_ ?_ (absurd rfl)
  · rw [Table.names, List.map_singleton, List.forall_mem_singleton]
    exact (by decide : ∀ key ∈ groupOrder, key ∈ Draft.attributes) key hkey
  · refine hothers "field" ?_
    rintro rfl
    exact absurd hkey (by decide)
  · have hnone : present operatorOrder [(key, v)] = [] := by
      refine List.filterMap_eq_nil_iff.mpr fun other hother => ?_
      rw [hothers other, Option.map_none]
      rintro rfl
      exact (by decide : ∀ key ∈ groupOrder, key ∉ operatorOrder) key hkey hother
    rw [hnone]
    exact .nil
  · rw [hpresent]
    exact .cons h .nil

/-- The attributes of operators are a node that says the condition on the field. -/
theorem node_field (name : String) {operators : List Operator}
    (hsub : (operators.map Operator.name).Sublist operatorOrder)
    (hoperators : ∀ op ∈ operators, op.Canonical) :
    Node (.object (("field", .string name) :: operatorNames.filterMap (attribute? operators)))
      (.field name operators) := by
  have hnodup := nodup_names_field name operators
  have hnames := names_attributes_sublist operators
  refine @Node.mk _ _ (some name) operators [] (.object _) hnodup ?_ ?_ ?_ ?_ (fun _ => rfl)
  · have hknown : ∀ key ∈ "field" :: operatorNames, key ∈ Draft.attributes := by decide
    exact fun key hkey => hknown key (List.cons_subset_cons "field" hnames.subset hkey)
  · rfl
  · rw [present_operatorOrder_field hsub hoperators, List.forall₂_map_left_iff]
    exact List.forall₂_same.mpr fun op hop => Operator.written_operandJson (hoperators op hop)
  · have hnone : present groupOrder
        (("field", .string name) :: operatorNames.filterMap (attribute? operators)) = [] := by
      refine List.filterMap_eq_nil_iff.mpr fun key hkey => ?_
      have hfield : key ≠ "field" := by
        rintro rfl
        exact absurd hkey (by decide)
      have hfind : operators.find? (fun op => op.name == key) = none := by
        refine List.find?_eq_none.mpr fun op _ hname => ?_
        have hdisjoint : ∀ key ∈ groupOrder, key ∉ operatorNames := by decide
        exact hdisjoint key hkey (beq_iff_eq.mp hname ▸ op.name_mem_operatorNames)
      rw [given?_field (hsub.nodup (by decide)) hoperators hfield, hfind]
      rfl
    rw [hnone]
    exact .nil

theorem toJson_ne_null (c : Condition) : c.toJson ≠ .null := by
  cases c <;> exact nofun

/-- **What is written for a canonical condition says it.** -/
theorem node_toJson {c : Condition} (h : c.Canonical) : Node c.toJson c := by
  have hparts : ∀ parts : List Condition, (∀ c ∈ parts, Node c.toJson c) →
      List.Forall₂ Node (partsToJson parts) parts := by
    intro parts ih
    rw [partsToJson_eq_map, List.forall₂_map_left_iff]
    exact List.forall₂_same.mpr ih
  induction h with
  | @all parts _ ih => exact node_of_group nofun (.all (hparts parts ih))
  | @any parts _ ih => exact node_of_group nofun (.any (hparts parts ih))
  | @not part _ ih => exact node_of_group part.toJson_ne_null (.not ih)
  | field name hsub hoperators => exact node_field name hsub hoperators

/-! ### Reading back -/

theorem fits_toJson {c : Condition} (h : c.Canonical) : c.toJson.Fits := by
  have hparts : ∀ parts : List Condition, (∀ c ∈ parts, c.toJson.Fits) →
      (Json.array (partsToJson parts)).Fits := by
    intro parts ih
    rw [partsToJson_eq_map]
    exact .array (List.forall_mem_map.mpr ih)
  induction h with
  | @all parts _ ih => exact .object (List.forall_mem_singleton.mpr (hparts parts ih))
  | @any parts _ ih => exact .object (List.forall_mem_singleton.mpr (hparts parts ih))
  | not _ ih => exact .object (List.forall_mem_singleton.mpr ih)
  | @field name operators hsub hoperators =>
    refine .object (List.forall_mem_cons.mpr ⟨.string name, ?_⟩)
    rintro ⟨key, v⟩ hmem
    obtain ⟨op, hop, -, rfl⟩ := (mem_attributes_iff (hsub.nodup (by decide))).mp hmem
    exact Operator.fits_operandJson (hoperators op hop)

theorem ofJson_eq_ok_iff {v : Json} {c : Condition} :
    ofJson v = .ok c ↔ v.isObject = true ∧ Node v c := by
  rw [← (readsNodes v).node, ofJson]
  cases v.isObject with
  | false => simp
  | true => cases Decoder.runJson decoder v <;> simp

theorem ofJson_toJson {c : Condition} (h : c.Canonical) : ofJson c.toJson = .ok c := by
  have hobject : c.toJson.isObject = true := by cases c <;> rfl
  exact ofJson_eq_ok_iff.mpr ⟨hobject, node_toJson h⟩

theorem canonical_of_ofJson {v : Json} {c : Condition} (hfits : v.Fits) (h : ofJson v = .ok c) :
    c.Canonical :=
  canonical_of_node hfits (ofJson_eq_ok_iff.mp h).2

/-- **Conditions can be written and read back.** The canonical conditions are those that are read
from some value with numbers of 64 bits, as all values of texts are. Each of them is read again from
what is written for it; so a value that is read, written and read again says what it said. -/
theorem canonical_read_back :
    (∀ c : Condition, c.Canonical ↔ ∃ v : Json, v.Fits ∧ ofJson v = .ok c) ∧
      (∀ c : Condition, c.Canonical → ofJson c.toJson = .ok c) ∧
      (∀ (v : Json) (c : Condition), v.Fits → ofJson v = .ok c → ofJson c.toJson = .ok c) ∧
      ∀ (text : String) (v : Json), Json.ofText? text = .ok v → v.Fits := by
  refine ⟨fun c => ⟨fun h => ?_, ?_⟩, fun c => ofJson_toJson, fun v c hfits h => ?_, ?_⟩
  · exact ⟨c.toJson, fits_toJson h, ofJson_toJson h⟩
  · rintro ⟨v, hfits, h⟩
    exact canonical_of_ofJson hfits h
  · exact ofJson_toJson (canonical_of_ofJson hfits h)
  · exact fun _ _ => Json.fits_of_ofText?

/-- A mixed node is read as the conjunction of its parts and is written as such. The number that is
too large for 64 bits with a sign has become a double. -/
theorem read_back_mixed_node :
    let v := .object [("field", .string "priority"), ("lt", .number (.whole 0xFFFFFFFFFFFFFFFF)),
      ("gte", .number (.whole 3)), ("eq", .null), ("or", .array [])]
    let c := .all [.any [], .field "priority"
      [.gte (.int 3), .lt (.double (.ofInt 0xFFFFFFFFFFFFFFFF))]]
    v.Fits ∧ ofJson v = .ok c ∧ c.Canonical ∧ ofJson c.toJson = .ok c := by
  intro v c
  have hfits : v.Fits := by
    refine .object ?_
    simp only [List.forall_mem_cons]
    exact ⟨.string _, .number ⟨by decide, by decide⟩, .number ⟨by decide, by decide⟩, .null,
      .array (List.forall_mem_nil _), List.forall_mem_nil _⟩
  have hread : ofJson v = .ok c := rfl
  obtain ⟨hcanonical, -, hback, -⟩ := canonical_read_back
  exact ⟨hfits, hread, (hcanonical c).mpr ⟨v, hfits, hread⟩, hback v c hfits hread⟩

end Condition

end GuardedSearch
