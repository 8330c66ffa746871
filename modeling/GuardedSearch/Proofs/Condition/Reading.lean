import GuardedSearch.Proofs.Condition.Draft

/-!
# Reading exactly the grammar

Reading a value gives a condition if the value is a node of the grammar, and then it gives the
condition that the node says; every other value is refused. Both directions go through the draft: it
holds what is given, so what it makes is what the grammar says, and since the grammar says one thing
only, what the grammar says is what the draft makes. The values in a node are smaller than it, which
is what the induction is on.

## Main definitions

* `Condition.Part.Written` — which attribute says which part
* `Condition.ReadsNodes` — the value is read as the grammar has it

## Main results

* `Condition.readsNodes` — every value is
* `Condition.Node.unique` — the grammar says one thing only
* `Condition.ofJson_exactly_nodes` — conditions as a client gives them
-/

namespace GuardedSearch.Condition

open Decoder (runJson inValue)

/-- The attribute says the part. -/
inductive Part.Written : String × Json → Part → Prop
  | field (name : String) : Written ("field", .string name) (.field name)
  | operator {a op} : Operator.Written a op → Written a (.operator op)
  | group {a c} : Group a c → Written a (.group c)

/-- Of the value the decoders make what the grammar says, as one node and as a list of nodes. -/
structure ReadsNodes (v : Json) : Prop where
  node : ∀ c, runJson decoder v = .ok c ↔ Node v c
  list : ∀ parts, runJson decodeList v = .ok parts ↔
    ∃ items, v = .array items ∧ List.Forall₂ Node items parts

/-! ### Attributes -/

section

variable {v : Json} {key : String} {part : Part}

/-- The decoder of an attribute makes of it what the grammar says, if that holds of its value. -/
theorem Part.decode_eq_ok_iff (h : ReadsNodes v) :
    runJson (Part.decode key) v = .ok part ↔ Part.Written (key, v) part := by
  constructor
  · intro hdecode
    unfold Part.decode at hdecode
    split at hdecode
    -- No attribute has this name.
    case h_13 => cases hdecode
    all_goals
      simp only [Decoder.runJson_mapped_eq_ok_iff, Decoder.runJson_string_eq_ok_iff,
        Literal.runJson_decoder_eq_ok_iff, Decoder.runJson_list_eq_ok_iff,
        Literal.ofJson?_eq_some_iff, h.node, h.list] at hdecode
    all_goals grind [Part.Written, Operator.Written, Group]
  · intro hwritten
    cases hwritten with
    | field => simp [Part.decode]
    | operator hop =>
      cases hop <;>
        simp_all [Part.decode, Decoder.runJson_list_eq_ok_iff, Literal.ofJson?_eq_some_iff]
    | group hgroup => cases hgroup <;> simp_all [Part.decode, h.node, h.list]

theorem Part.Written.unique (h : ReadsNodes v) {other : Part} (hpart : Part.Written (key, v) part)
    (hother : Part.Written (key, v) other) : part = other := by
  rw [← Part.decode_eq_ok_iff h] at hpart hother
  exact Except.ok.inj (hpart.symm.trans hother)

/-- Attributes of one kind say one list of parts. -/
theorem eq_of_written {γ : Type} {R : String × Json → γ → Prop} {make : γ → Part}
    (hmake : make.Injective) (hR : ∀ a c, R a c → Part.Written a (make c))
    {members : List (String × Json)} (hreads : ∀ m ∈ members, ReadsNodes m.2) {cs ds : List γ}
    (hcs : List.Forall₂ R members cs) (hds : List.Forall₂ R members ds) : cs = ds := by
  have hunique : Relator.RightUnique fun m c => ReadsNodes m.2 ∧ R m c := by
    rintro ⟨key, v⟩ c d ⟨h, hc⟩ ⟨-, hd⟩
    exact hmake ((hR _ _ hc).unique h (hR _ _ hd))
  exact List.right_unique_forall₂' hunique ((List.forall₂_and_left _ _).mpr ⟨hreads, hcs⟩)
    ((List.forall₂_and_left _ _).mpr ⟨hreads, hds⟩)

end

/-! ### What a draft holds, in the grammar -/

namespace Draft.Holds

variable {d : Draft} {members : List (String × Json)}

/-- The attributes of one kind that are given are those that the draft has, in any order in which
they are asked for. -/
theorem forall₂_present (h : d.Holds members) (hreads : ∀ m ∈ members, ReadsNodes m.2)
    {γ : Type} {R : String × Json → γ → Prop} {order : List String} {select : Part → Option γ}
    (hselect : ∀ key ∈ order, ∀ v part, Part.Written (key, v) part →
      ∃ c, select part = some c ∧ R (key, v) c) :
    List.Forall₂ R (present order members)
      (order.filterMap fun key => (d.slot key).join.bind select) := by
  refine List.rel_filterMap (R := fun key other => key ∈ order ∧ key = other) ?_
    (List.forall₂_same.mpr fun key hkey => ⟨hkey, rfl⟩)
  rintro key _ ⟨hkey, rfl⟩
  show Option.Rel R ((given? members key).map fun v => (key, v)) ((d.slot key).join.bind select)
  have hrel := h.rel_given? key
  have hgiven : ∀ v, given? members key = some v → ReadsNodes v :=
    fun v hv => hreads (key, v) (mem_of_given? hv)
  generalize given? members key = given, (d.slot key).join = slot at hrel hgiven ⊢
  cases hrel with
  | none => exact .none
  | @some v part hpart =>
    have hwritten := (Part.decode_eq_ok_iff (hgiven v rfl)).mp hpart
    obtain ⟨c, hc, hR⟩ := hselect key hkey v part hwritten
    rw [Option.map_some, Option.bind_some, hc]
    exact .some hR

theorem operators_written (h : d.Holds members) (hreads : ∀ m ∈ members, ReadsNodes m.2) :
    List.Forall₂ Operator.Written (present operatorOrder members) d.operators := by
  rw [operators_eq_filterMap]
  refine h.forall₂_present hreads ?_
  rintro key hkey v part (_ | hop | hgroup)
  · exact absurd hkey (by decide)
  · exact ⟨_, rfl, hop⟩
  · cases hgroup <;> exact absurd hkey (by decide)

theorem groups_written (h : d.Holds members) (hreads : ∀ m ∈ members, ReadsNodes m.2) :
    List.Forall₂ Group (present groupOrder members) d.groups := by
  refine h.forall₂_present hreads ?_
  rintro key hkey v part (_ | hop | hgroup)
  · exact absurd hkey (by decide)
  · cases hop <;> exact absurd hkey (by decide)
  · exact ⟨_, rfl, hgroup⟩

theorem field_given (h : d.Holds members) :
    given? members "field" = d.field.join.map Json.string := by
  have hrel := h.rel_given? "field"
  have hslot : (d.slot "field").join = d.field.join.map .field := by
    rcases hfield : d.field with _ | _ | name <;> simp [slot, hfield]
  rw [hslot] at hrel
  generalize given? members "field" = given, d.field.join = name at hrel ⊢
  cases name with
  | none =>
    cases hrel
    rfl
  | some name =>
    cases hrel with
    | some hname =>
      obtain ⟨other, hother, hfield⟩ := Decoder.runJson_mapped_eq_ok_iff.mp hname
      rw [Decoder.runJson_string_eq_ok_iff.mp hother, Part.field.inj hfield]
      rfl

end Draft.Holds

/-! ### Nodes -/

/-- The items of an array fill in the attributes under whose names they stand. -/
theorem decodeItems_eq_map (d : Draft) (names : List String) (items : List Json) :
    decodeItems inValue d names (Raw.ofItems items) =
      (fun filled => (filled, Raw.ofItems (items.drop names.length))) <$>
        decodeMembers inValue d (Raw.ofMembers (names.zip items)) := by
  induction names generalizing d items with
  | nil => simp [decodeItems, Raw.ofMembers, decodeMembers]
  | cons name names ih =>
    cases items with
    | nil => simp [decodeItems, Raw.ofMembers, Raw.ofItems, decodeMembers]
    | cons v items =>
      rw [List.zip_cons_cons, Raw.ofMembers, Raw.ofItems, decodeItems, decodeMembers, map_bind]
      simp only [ih, List.length_cons, List.drop_succ_cons]

/-- A node is read from the attributes that it gives. -/
theorem runJson_decoder_eq_ok_iff {v : Json} {c : Condition} :
    runJson decoder v = .ok c ↔ ∃ members, Gives v members ∧
      ∃ d, decodeMembers inValue .blank (Raw.ofMembers members) = .ok d ∧ d.complete = .ok c := by
  cases v with
  | object members =>
    simp [Decoder.runJson_eq, Raw.ofJson, decoder, gives_object_iff, Raw.atEnd]
  | array items =>
    have hrest : Raw.ofItems (items.drop Draft.attributes.length) = [] ↔
        items.length ≤ Draft.attributes.length := by
      rw [Raw.ofItems_eq_map, List.map_eq_nil_iff, List.drop_eq_nil_iff]
    simp only [Decoder.runJson_eq, Raw.ofJson, decoder, Decoder.enter_inValue, decodeItems_eq_map,
      gives_array_iff, bind_eq_ok_iff, map_eq_ok_iff, Except.ok.injEq, exists_eq_left']
    by_cases hlength : items.length ≤ Draft.attributes.length
    · simp [hlength, hrest, Raw.atEnd]
    · simp [hlength, hrest, inValue]
  | null | bool | number | string =>
    constructor
    · intro h
      cases h
    · rintro ⟨members, ⟨⟩, -⟩

theorem decodeParts_eq_mapM (p : Place) (rs : List Raw) :
    decodeParts p rs = rs.mapM (decoder p) := by
  induction rs with
  | nil => rfl
  | cons r rs ih => rw [decodeParts, ih, List.mapM_cons]

/-- A list of nodes is read item by item. -/
theorem runJson_decodeList_eq_ok_iff {v : Json} {parts : List Condition} :
    runJson decodeList v = .ok parts ↔ ∃ items, v = .array items ∧
      List.Forall₂ (fun item c => runJson decoder item = .ok c) items parts := by
  cases v with
  | array items =>
    simp only [Decoder.runJson_eq, Raw.ofJson, decodeList, Decoder.enter_inValue, Raw.atEnd,
      Raw.ofItems_eq_map, decodeParts_eq_mapM]
    simp [mapM_eq_ok_iff]
  | _ => simp [Decoder.runJson_eq, Raw.ofJson, decodeList]

section

variable {v : Json} {c : Condition}

/-- What is read is what the grammar says. -/
theorem node_of_runJson_decoder (ih : ∀ members, Gives v members → ∀ m ∈ members, ReadsNodes m.2)
    (h : runJson decoder v = .ok c) : Node v c := by
  obtain ⟨members, hgives, d, hread, hcomplete⟩ := runJson_decoder_eq_ok_iff.mp h
  have hreads := ih members hgives
  have hholds : d.Holds members := Draft.holds_blank.decodeMembers hread
  obtain ⟨hwant, rfl⟩ := Draft.complete_eq_ok_iff.mp hcomplete
  rw [Draft.parts_eq_groups_append]
  exact .mk hgives hholds.nodup hholds.known hholds.field_given
    (hholds.operators_written hreads) (hholds.groups_written hreads) hwant

/-- Of a node, every attribute that is given says something. -/
theorem exists_written {members : List (String × Json)} {name : Option String}
    {operators : List Operator} {groups : List Condition}
    (hfield : given? members "field" = name.map Json.string)
    (hoperators : List.Forall₂ Operator.Written (present operatorOrder members) operators)
    (hgroups : List.Forall₂ Group (present groupOrder members) groups) {key : String}
    (hkey : key ∈ Draft.attributes) (hgiven : given? members key = some v) :
    ∃ part, Part.Written (key, v) part := by
  obtain rfl | horder | horder := attribute_cases key hkey
  · rw [hgiven] at hfield
    obtain ⟨name, -, rfl⟩ := Option.map_eq_some_iff.mp hfield.symm
    exact ⟨.field name, .field name⟩
  · obtain ⟨op, -, hop⟩ := exists_mem_of_forall₂ hoperators (mem_present_iff.mpr ⟨horder, hgiven⟩)
    exact ⟨.operator op, .operator hop⟩
  · obtain ⟨c, -, hc⟩ := exists_mem_of_forall₂ hgroups (mem_present_iff.mpr ⟨horder, hgiven⟩)
    exact ⟨.group c, .group hc⟩

/-- What the grammar says is read. -/
theorem runJson_decoder_of_node (ih : ∀ members, Gives v members → ∀ m ∈ members, ReadsNodes m.2)
    (h : Node v c) : runJson decoder v = .ok c := by
  obtain @⟨_, members, name, operators, groups, hgives, hnodup, hknown, hfield, hoperators, hgroups,
    hwant⟩ := h
  have hreads := ih members hgives
  have hpresent : ∀ order, ∀ m ∈ present order members, ReadsNodes m.2 := by
    rintro order ⟨key, w⟩ hm
    exact hreads (key, w) (mem_of_given? (mem_present_iff.mp hm).2)
  have hread : ∀ m ∈ members, m.1 ∈ Draft.attributes ∧
      ∃ part, runJson (Decoder.optional (Part.decode m.1)) m.2 = .ok part := by
    rintro ⟨key, w⟩ hm
    have hkey : key ∈ Draft.attributes := hknown key (List.mem_map_of_mem hm)
    refine ⟨hkey, ?_⟩
    simp only [Decoder.runJson_optional_eq_ok_iff]
    by_cases hnull : w = .null
    · exact ⟨none, .inl ⟨hnull, rfl⟩⟩
    · have hgiven : given? members key = some w :=
        given?_eq_some_iff.mpr ⟨(Table.value?_eq_some_iff hnodup).mpr hm, hnull⟩
      obtain ⟨part, hpart⟩ := exists_written hfield hoperators hgroups hkey hgiven
      exact ⟨some part, .inr ⟨hnull, part, (Part.decode_eq_ok_iff (hreads _ hm)).mpr hpart, rfl⟩⟩
  -- So there is a draft. It need not be that of the node until each attribute says one thing only.
  obtain ⟨d, hd⟩ := Draft.holds_blank.exists_decodeMembers hnodup hread
  have hholds : d.Holds members := Draft.holds_blank.decodeMembers hd
  have hname : d.field.join = name :=
    Option.map_injective (fun _ _ => Json.string.inj) (hholds.field_given.symm.trans hfield)
  have hops : d.operators = operators :=
    eq_of_written (fun _ _ => Part.operator.inj) (fun _ _ => .operator) (hpresent operatorOrder)
      (hholds.operators_written hreads) hoperators
  have hgrps : d.groups = groups :=
    eq_of_written (fun _ _ => Part.group.inj) (fun _ _ => .group) (hpresent groupOrder)
      (hholds.groups_written hreads) hgroups
  refine runJson_decoder_eq_ok_iff.mpr
    ⟨members, hgives, d, hd, Draft.complete_eq_ok_iff.mpr ?_⟩
  rw [Draft.parts_eq_groups_append, hname, hops, hgrps]
  exact ⟨hwant, rfl⟩

theorem readsNodes_of_parts (hgives : ∀ members, Gives v members → ∀ m ∈ members, ReadsNodes m.2)
    (hitems : ∀ items, v = .array items → ∀ item ∈ items, ReadsNodes item) : ReadsNodes v where
  node _ := ⟨node_of_runJson_decoder hgives, runJson_decoder_of_node hgives⟩
  list parts := by
    rw [runJson_decodeList_eq_ok_iff]
    refine exists_congr fun items => and_congr_right fun hv => ?_
    exact forall₂_congr_of_mem fun item hitem => (hitems items hv item hitem).node

end

/-- **Every value is read as the grammar has it.** -/
theorem readsNodes (v : Json) : ReadsNodes v := by
  induction v using Json.induction with
  | array items ih =>
    refine readsNodes_of_parts ?_ ?_
    · intro members hgives m hm
      obtain ⟨-, rfl⟩ := gives_array_iff.mp hgives
      exact ih m.2 (List.of_mem_zip hm).2
    · rintro _ ⟨⟩
      exact ih
  | object members ih =>
    refine readsNodes_of_parts ?_ ?_
    · intro given hgives
      obtain rfl := gives_object_iff.mp hgives
      exact ih
    · rintro _ ⟨⟩
  | null | bool | number | string =>
    refine readsNodes_of_parts ?_ ?_
    · rintro _ ⟨⟩
    · rintro _ ⟨⟩

/-- A value says one condition at most. -/
theorem Node.unique {v : Json} {c c' : Condition} (h : Node v c) (h' : Node v c') : c = c' := by
  rw [← (readsNodes v).node] at h h'
  exact Except.ok.inj (h.symm.trans h')

/-- **The conditions that a client can give are the objects that are nodes.** A client's value is
read exactly if it is an object and a node, and it is read as the condition that the node says. A
value that is no object is refused as such, and an object that is no node as an invalid
condition. -/
theorem ofJson_exactly_nodes (v : Json) :
    (∀ c, ofJson v = .ok c ↔ v.isObject = true ∧ Node v c) ∧
      ((∃ c, v.isObject = true ∧ Node v c) ∨
        (v.isObject = false ∧ ofJson v = .error .conditionNotObject) ∨
        (v.isObject = true ∧ ∃ e, ofJson v = .error (.invalidCondition e))) := by
  have hnode := (readsNodes v).node
  cases hobject : v.isObject with
  | false =>
    have hrefused : ofJson v = .error .conditionNotObject := by simp [ofJson, hobject]
    simp [hrefused]
  | true =>
    cases hread : runJson decoder v with
    | ok c =>
      have hc : ofJson v = .ok c := by simp [ofJson, hobject, hread]
      refine ⟨fun other => ?_, .inl ⟨c, rfl, (hnode c).mp hread⟩⟩
      rw [hc, ← hnode other, hread]
      simp
    | error e =>
      have he : ofJson v = .error (.invalidCondition e) := by simp [ofJson, hobject, hread]
      refine ⟨fun c => ?_, .inr (.inr ⟨rfl, e, he⟩)⟩
      rw [he, ← hnode c, hread]
      simp

/-- The part of a combination may be an array, and an attribute that is null says nothing. The
field comes behind the combined conditions, wherever it stands in the object. -/
example : ofJson (.object [("eq", .number (.whole 3)), ("field", .string "priority"),
      ("not", .null), ("and", .array [.array [.string "owner", .string "ann"]])]) =
    .ok (.all [.all [.one "owner" (.eq (.string "ann"))], .one "priority" (.eq (.int 3))]) :=
  rfl

end GuardedSearch.Condition
