import DocumentSearch.Proofs.Pointwise
import DocumentSearch.Proofs.Schema.RoundTrip

/-! The documents that are schemas. A document is read as a schema exactly if it has the form of
one, and the schema read has the keys of the document, all of them usable, and reads back from its
own JSON form. -/

namespace DocumentSearch

namespace Json

mutual

/-- No object in a document binds a name twice. -/
def DistinctNames : Json → Prop
  | .null | .bool _ | .num _ | .str _ => True
  | .arr items => DistinctInItems items
  | .obj members => Members.Distinct members ∧ DistinctInMembers members

def DistinctInItems : List Json → Prop
  | [] => True
  | item :: rest => DistinctNames item ∧ DistinctInItems rest

def DistinctInMembers : List (String × Json) → Prop
  | [] => True
  | (_, value) :: rest => DistinctNames value ∧ DistinctInMembers rest

end

theorem distinctNames_obj_iff (members : List (String × Json)) :
    DistinctNames (.obj members) ↔
      Members.Distinct members ∧ ∀ member ∈ members, member.2.DistinctNames := by
  have hmembers : DistinctInMembers members ↔ ∀ member ∈ members, member.2.DistinctNames := by
    induction members with
    | nil => simp [DistinctInMembers]
    | cons member rest ih => simp [DistinctInMembers, ih]
  rw [DistinctNames, hmembers]

/-- Induction over documents, with the claim for everything directly inside a list or an object. -/
@[elab_as_elim]
theorem induction {motive : Json → Prop} (null : motive .null) (bool : ∀ b, motive (.bool b))
    (num : ∀ n, motive (.num n)) (str : ∀ s, motive (.str s))
    (arr : ∀ items, (∀ item ∈ items, motive item) → motive (.arr items))
    (obj : ∀ members, (∀ member ∈ members, motive member.2) → motive (.obj members)) :
    ∀ document, motive document
  | .null => null
  | .bool b => bool b
  | .num n => num n
  | .str s => str s
  | .arr items => arr items fun item hmem =>
    have := List.sizeOf_lt_of_mem hmem
    induction null bool num str arr obj item
  | .obj members => obj members fun member hmem =>
    have : sizeOf member.2 < sizeOf members := by
      obtain ⟨name, value⟩ := member
      have := List.sizeOf_lt_of_mem hmem
      simp only [Prod.mk.sizeOf_spec] at this ⊢
      omega
    induction null bool num str arr obj member.2

/-! ## Members of a record -/

theorem exists_readOptional_iff {α : Type} {read : Json → Except Mismatch α} {value : Json} :
    (∃ a?, readOptional read value = .ok a?) ↔ value = .null ∨ ∃ a, read value = .ok a := by
  cases value with
  | null => simp [readOptional]
  | bool | num | str | arr | obj =>
    rw [readOptional]
    · cases read _ <;> simp [Except.map]
    · simp

/-- Where the record read so far does not decide whether a member can be taken into account, the
members can be read exactly if each of them suits. -/
theorem exists_readMembers_iff {α : Type} {member : α → String → Json → Except Mismatch α}
    {suits : String → Json → Prop}
    (h : ∀ record name value, (∃ next, member record name value = .ok next) ↔ suits name value)
    (record : α) (members : List (String × Json)) :
    (∃ last, readMembers member record members = .ok last) ↔
      ∀ pair ∈ members, suits pair.1 pair.2 := by
  induction members generalizing record with
  | nil => simp [readMembers]
  | cons pair rest ih =>
    obtain ⟨name, value⟩ := pair
    rw [readMembers, List.forall_mem_cons, ← h record name value]
    cases member record name value with
    | error mismatch => simp
    | ok next => simp [ih next]

end Json

namespace Schema

/-! ## The form of a schema -/

/-- The members of a field with flags: `type` is bound to the word for a kind, and the flags, where
they are there, to what they can be. Members of other names are free. -/
structure FieldForm (members : List (String × Json)) : Prop where
  kind : ∃ kind : FieldKind, ("type", .str kind.token) ∈ members
  flags : ∀ name ∈ ["fast", "noTokenize", "noStem"], ∀ value, (name, value) ∈ members →
    value = .null ∨ ∃ flag, value = .bool flag
  source : ∀ value, ("from", value) ∈ members → value = .null ∨ ∃ source, value = .str source

/-- The form of what a key is bound to: the word for a kind, a field with flags, or an object whose
`type`, if it has one, is no such word, which is a schema again. -/
inductive ItemForm : Json → Prop where
  | bare (kind : FieldKind) : ItemForm (.str kind.token)
  | flagged {members : List (String × Json)} : FieldForm members → ItemForm (.obj members)
  | nested {members : List (String × Json)} :
      (∀ kind : FieldKind, ("type", .str kind.token) ∉ members) →
      (∀ member ∈ members, '.' ∉ member.1.toList) → (∀ member ∈ members, ItemForm member.2) →
        ItemForm (.obj members)

/-- The form of a schema: an object without dots in its names, each bound to an item. What `type` is
bound to makes no difference here. -/
def SchemaForm (document : Json) : Prop :=
  ∃ members, document = .obj members ∧ (∀ member ∈ members, '.' ∉ member.1.toList) ∧
    ∀ member ∈ members, ItemForm member.2

/-- The keys of a schema, and of those nested in it, are the names in a document, in their order. -/
inductive SameKeys : Json → SchemaTree → Prop where
  | bare (document : Json) (kind : FieldKind) : SameKeys document (.bare kind)
  | flagged (document : Json) (spec : FieldSpec) : SameKeys document (.flagged spec)
  | nested {members : List (String × Json)} {items : List (String × SchemaTree)} :
      members.map Prod.fst = items.map Prod.fst →
      List.Forall₂ SameKeys (members.map Prod.snd) (items.map Prod.snd) →
        SameKeys (.obj members) (.nested items)

/-! ## Fields with flags -/

/-- What a member of a field's document may be bound to, by its name. -/
structure Suits (name : String) (value : Json) : Prop where
  kind : name = "type" → ∃ kind : FieldKind, Json.readWord value = .ok kind
  flag : name ∈ ["fast", "noTokenize", "noStem"] → value = .null ∨ ∃ flag, value = .bool flag
  source : name = "from" → value = .null ∨ ∃ source, value = .str source

theorem exists_readBool_iff {value : Json} :
    (∃ flag?, Json.readOptional Json.readBool value = .ok flag?) ↔
      value = .null ∨ ∃ flag, value = .bool flag := by
  rw [Json.exists_readOptional_iff]
  cases value <;> simp [Json.readBool]

theorem exists_readText_iff {value : Json} :
    (∃ text?, Json.readOptional Json.readText value = .ok text?) ↔
      value = .null ∨ ∃ text, value = .str text := by
  rw [Json.exists_readOptional_iff]
  cases value <;> simp [Json.readText]

theorem exists_map_eq_ok_iff {ε α β : Type} {f : α → β} {result : Except ε α} :
    (∃ b, result.map f = .ok b) ↔ ∃ a, result = .ok a := by
  cases result <;> simp [Except.map]

theorem exists_readMember_iff (read : Option FieldKind × Flags) (name : String) (value : Json) :
    (∃ next, FieldSpec.readMember read name value = .ok next) ↔ Suits name value := by
  obtain ⟨kind?, flags⟩ := read
  unfold FieldSpec.readMember
  dsimp only
  split
  case h_1 =>
    rw [exists_map_eq_ok_iff]
    exact ⟨fun h => ⟨fun _ => h, by simp, by simp⟩, fun h => h.kind rfl⟩
  case h_2 | h_3 | h_4 =>
    rw [exists_map_eq_ok_iff, exists_readBool_iff]
    exact ⟨fun h => ⟨by simp, fun _ => h, by simp⟩, fun h => h.flag (by simp)⟩
  case h_5 =>
    rw [exists_map_eq_ok_iff, exists_readText_iff]
    exact ⟨fun h => ⟨by simp, by simp, fun _ => h⟩, fun h => h.source rfl⟩
  case h_6 htype hfast htokenize hstem hfrom =>
    refine iff_of_true ⟨_, rfl⟩ ⟨(absurd · htype), ?_, (absurd · hfrom)⟩
    intro hflag
    simp only [List.mem_cons, List.not_mem_nil, or_false] at hflag
    exact absurd hflag (by rintro (h | h | h) <;> contradiction)

/-- A member `type` tells the kind, and the other members leave it as it is. -/
theorem isSome_readMember {read next : Option FieldKind × Flags} {name : String} {value : Json}
    (h : FieldSpec.readMember read name value = .ok next)
    (hkind : read.1.isSome ∨ name = "type") : next.1.isSome := by
  obtain ⟨kind?, flags⟩ := read
  unfold FieldSpec.readMember at h
  dsimp only at h
  split at h
  case h_1 =>
    obtain ⟨kind, -, rfl⟩ := map_eq_ok_iff.mp h
    rfl
  case h_2 | h_3 | h_4 | h_5 =>
    obtain ⟨_, -, rfl⟩ := map_eq_ok_iff.mp h
    simpa using hkind
  case h_6 htype _ _ _ _ =>
    obtain rfl := Except.ok.inj h
    exact hkind.resolve_right htype

theorem isSome_readMembers {read last : Option FieldKind × Flags} {members : List (String × Json)}
    (h : Json.readMembers FieldSpec.readMember read members = .ok last)
    (hkind : read.1.isSome ∨ "type" ∈ Members.keys members) : last.1.isSome := by
  induction members generalizing read with
  | nil =>
    obtain rfl := Except.ok.inj h
    simpa using hkind
  | cons member rest ih =>
    obtain ⟨name, value⟩ := member
    rw [Json.readMembers] at h
    cases hnext : FieldSpec.readMember read name value with
    | error mismatch => simp [hnext] at h
    | ok next =>
      rw [hnext] at h
      apply ih h
      rcases hkind with hread | hkey
      · exact .inl (isSome_readMember hnext (.inl hread))
      · rcases List.mem_cons.mp hkey with rfl | hkey
        · exact .inl (isSome_readMember hnext (.inr rfl))
        · exact .inr hkey

/-- The members of an object with a `type` are read as a field exactly if each of them suits. -/
theorem exists_fieldOfJson_iff {members : List (String × Json)}
    (h : "type" ∈ Members.keys members) :
    (∃ spec, FieldSpec.ofJson (.obj members) = .ok spec) ↔
      ∀ member ∈ members, Suits member.1 member.2 := by
  rw [← Json.exists_readMembers_iff exists_readMember_iff (none, {}) members, FieldSpec.ofJson,
    Json.readRecord]
  cases hread : Json.readMembers FieldSpec.readMember (none, {}) members with
  | error mismatch => simp
  | ok last =>
    obtain ⟨kind, hkind⟩ := Option.isSome_iff_exists.mp (isSome_readMembers hread (.inr h))
    obtain ⟨kind?, flags⟩ := last
    obtain rfl : kind? = some kind := hkind
    simp

theorem namesKind_iff {members : List (String × Json)} (h : Members.Distinct members) :
    namesKind members = true ↔ ∃ kind : FieldKind, ("type", .str kind.token) ∈ members := by
  simp only [← Members.lookup?_eq_some_iff h]
  rw [namesKind]
  cases hlookup : Members.lookup? members "type" with
  | none => simp
  | some value =>
    cases value with
    | str word =>
      have hword (kind : FieldKind) : Vocabulary.ofWord? word = some kind ↔ word = kind.token := by
        rw [Vocabulary.ofWord?_eq_some_iff, eq_comm]
        rfl
      simp [Option.isSome_iff_exists, hword]
    | null | bool | num | arr | obj => simp

/-- A field is what is read from an object with the form of a field. -/
theorem fieldForm_iff {members : List (String × Json)} (h : Members.Distinct members) :
    FieldForm members ↔
      namesKind members = true ∧ ∃ spec, FieldSpec.ofJson (.obj members) = .ok spec := by
  rw [namesKind_iff h]
  constructor
  · intro hform
    obtain ⟨kind, hkind⟩ := hform.kind
    have htype : "type" ∈ Members.keys members := List.mem_map_of_mem hkind
    refine ⟨hform.kind, (exists_fieldOfJson_iff htype).mpr ?_⟩
    rintro ⟨name, value⟩ hmem
    refine ⟨?_, fun hflag => hform.flags name hflag value hmem, ?_⟩
    · rintro rfl
      -- names are distinct, so this member is the one that the form speaks of
      have hvalue : value = .str kind.token := by
        rw [← Members.lookup?_eq_some_iff h] at hkind hmem
        simpa [hkind, eq_comm] using hmem
      exact ⟨kind, by rw [hvalue, FieldSpec.readWord_token]⟩
    · rintro rfl
      exact hform.source value hmem
  · rintro ⟨⟨kind, hkind⟩, hspec⟩
    have hsuits := (exists_fieldOfJson_iff (List.mem_map_of_mem hkind)).mp hspec
    exact ⟨⟨kind, hkind⟩, fun name hflag value hmem => (hsuits _ hmem).flag hflag,
      fun value hmem => (hsuits _ hmem).source rfl⟩

/-! ## What is read -/

theorem readKind_eq_ok_iff {word : String} {kind : FieldKind} :
    readKind word = .ok kind ↔ word = kind.token := by
  have hword : Vocabulary.ofWord? word = some kind ↔ kind.token = word :=
    Vocabulary.ofWord?_eq_some_iff
  rw [@eq_comm _ word, ← hword, readKind]
  cases (Vocabulary.ofWord? word : Option FieldKind) <;> simp

theorem readField_eq_ok_iff {document : Json} {spec : FieldSpec} :
    readField document = .ok spec ↔ FieldSpec.ofJson document = .ok spec := by
  rw [readField]
  cases FieldSpec.ofJson document <;> simp

theorem itemOfJson_eq_bare_iff {document : Json} {kind : FieldKind} :
    itemOfJson document = .ok (.bare kind) ↔ document = .str kind.token := by
  cases document with
  | str word => simp [itemOfJson, map_eq_ok_iff, readKind_eq_ok_iff, SchemaItem.ext_iff]
  | obj members =>
    rw [itemOfJson]
    split <;> simp [map_eq_ok_iff, SchemaItem.ext_iff]
  | null | bool | num | arr => simp [itemOfJson]

/-- Where no name comes twice, the entries of a schema are read from the members. -/
theorem reads_of_itemsOfJson {members : List (String × Json)} {schema : Schema}
    (h : (itemsOfJson members).map ofPairs = .ok schema) (hdistinct : Members.Distinct members) :
    List.Forall₂ ReadsMember members schema.entries := by
  obtain ⟨pairs, hpairs, rfl⟩ := map_eq_ok_iff.mp h
  have hread := itemsOfJson_eq_ok_iff.mp hpairs
  have hkeys : Members.keys members = Members.keys pairs :=
    map_eq_of_forall₂ hread fun _ _ _ hmember => hmember.key_eq
  rwa [entries_ofPairs (hkeys ▸ hdistinct)]

/-- A nested schema is read from an object that does not look like a field. Where no name comes
twice, its entries are read from the members. -/
theorem reads_of_itemOfJson {document : Json} {schema : Schema}
    (h : itemOfJson document = .ok (.nested schema)) (hdistinct : document.DistinctNames) :
    ∃ members, document = .obj members ∧ namesKind members = false ∧
      List.Forall₂ ReadsMember members schema.entries := by
  cases document with
  | obj members =>
    cases hkind : namesKind members with
    | true =>
      rw [itemOfJson, if_pos hkind] at h
      simp [map_eq_ok_iff, SchemaItem.ext_iff] at h
    | false =>
      rw [itemOfJson_nested (by simp [hkind])] at h
      obtain ⟨own, hown, heq⟩ := map_eq_ok_iff.mp h
      obtain rfl : own = schema := SchemaItem.nested_injective heq
      have hmembers := ((Json.distinctNames_obj_iff members).mp hdistinct).1
      exact ⟨members, rfl, hkind, reads_of_itemsOfJson hown hmembers⟩
  | null | bool | num | str | arr => simp [itemOfJson, map_eq_ok_iff, SchemaItem.ext_iff] at h

/-! ## What is accepted -/

theorem itemForm_obj_iff {members : List (String × Json)} :
    ItemForm (.obj members) ↔ FieldForm members ∨
      (∀ kind : FieldKind, ("type", .str kind.token) ∉ members) ∧
        (∀ member ∈ members, '.' ∉ member.1.toList) ∧ ∀ member ∈ members, ItemForm member.2 := by
  constructor
  · intro h
    cases h with
    | flagged h => exact .inl h
    | nested hkind hundotted hitems => exact .inr ⟨hkind, hundotted, hitems⟩
  · rintro (h | ⟨hkind, hundotted, hitems⟩)
    · exact .flagged h
    · exact .nested hkind hundotted hitems

/-- Members are accepted one by one. -/
theorem exists_itemsOfJson_iff {members : List (String × Json)}
    (hinner : ∀ member ∈ members, (∃ item, itemOfJson member.2 = .ok item) ↔ ItemForm member.2) :
    (∃ items, itemsOfJson members = .ok items) ↔
      (∀ member ∈ members, '.' ∉ member.1.toList) ∧ ∀ member ∈ members, ItemForm member.2 := by
  simp only [itemsOfJson_eq_ok_iff, exists_forall₂_iff]
  constructor
  · intro h
    refine ⟨fun member hmem => ?_, fun member hmem => ?_⟩
    · obtain ⟨pair, hpair⟩ := h member hmem
      exact hpair.undotted
    · obtain ⟨pair, hpair⟩ := h member hmem
      exact (hinner member hmem).mp ⟨pair.2, hpair.item⟩
  · rintro ⟨hundotted, hitems⟩ member hmem
    obtain ⟨item, hitem⟩ := (hinner member hmem).mpr (hitems member hmem)
    exact ⟨(member.1, item), rfl, hundotted member hmem, hitem⟩

theorem exists_itemOfJson_iff {document : Json} (h : document.DistinctNames) :
    (∃ item, itemOfJson document = .ok item) ↔ ItemForm document := by
  induction document using Json.induction with
  | str word =>
    constructor
    · rintro ⟨item, hitem⟩
      rw [itemOfJson] at hitem
      obtain ⟨kind, hkind, -⟩ := map_eq_ok_iff.mp hitem
      obtain rfl : word = kind.token := readKind_eq_ok_iff.mp hkind
      exact .bare kind
    · rintro ⟨kind⟩
      exact ⟨.bare kind, itemOfJson_eq_bare_iff.mpr rfl⟩
  | obj members ih =>
    obtain ⟨hdistinct, hinner⟩ := (Json.distinctNames_obj_iff members).mp h
    have hitems := exists_itemsOfJson_iff fun member hmem => ih member hmem (hinner member hmem)
    rw [itemForm_obj_iff, fieldForm_iff hdistinct, ← hitems, ← not_exists,
      ← namesKind_iff hdistinct, itemOfJson]
    cases namesKind members <;> simp [exists_map_eq_ok_iff, readField_eq_ok_iff]
  | null | bool | num | arr =>
    refine iff_of_false (by simp [itemOfJson]) ?_
    rintro ⟨⟩

/-! ## What the result is like -/

theorem sameKeys_of_reads {members : List (String × Json)} {schema : Schema}
    (h : List.Forall₂ ReadsMember members schema.entries)
    (hinner : ∀ member ∈ members, ∀ pair ∈ schema.entries, itemOfJson member.2 = .ok pair.2 →
      SameKeys member.2 pair.2.tree) : SameKeys (.obj members) schema.tree := by
  refine .nested ?_ ?_
  · rw [← Members.keys, ← Members.keys, ← keys_entries]
    exact map_eq_of_forall₂ h fun _ _ _ hread => hread.key_eq
  · rw [← treesOf_entries, treesOf, List.map_map, List.forall₂_map_left_iff,
      List.forall₂_map_right_iff]
    exact forall₂_of_forall₂ h fun member hmember pair hpair hread =>
      hinner member hmember pair hpair hread.item

theorem sameKeys_of_itemOfJson {item : SchemaItem} {document : Json}
    (h : itemOfJson document = .ok item) (hdistinct : document.DistinctNames) :
    SameKeys document item.tree := by
  induction item using SchemaItem.induction generalizing document with
  | bare kind => exact .bare document kind
  | flagged spec => exact .flagged document spec
  | nested schema ih =>
    obtain ⟨members, rfl, -, hread⟩ := reads_of_itemOfJson h hdistinct
    have hinner := ((Json.distinctNames_obj_iff members).mp hdistinct).2
    exact sameKeys_of_reads hread fun member hmember pair hpair hitem =>
      ih pair hpair hitem (hinner member hmember)

theorem checkKeys_of_reads {members : List (String × Json)} {schema : Schema}
    (h : List.Forall₂ ReadsMember members schema.entries)
    (hinner : ∀ member ∈ members, ∀ pair ∈ schema.entries, itemOfJson member.2 = .ok pair.2 →
      pair.2.tree.checkKeys = .ok ()) : schema.checkKeys = .ok () := by
  rw [checkKeys, tree, SchemaTree.checkKeys, SchemaTree.checkItems_eq_ok_iff]
  rintro ⟨key, tree⟩ hmem
  obtain ⟨item, hentry, rfl⟩ := exists_entry_of_mem_items hmem
  obtain ⟨⟨name, document⟩, hmember, hread⟩ := exists_left_of_forall₂ h hentry
  obtain rfl : name = key := hread.key_eq
  exact ⟨(Path.dotted_eq_false_iff name).mpr hread.undotted,
    hinner _ hmember _ hentry hread.item⟩

theorem checkKeys_of_itemOfJson {item : SchemaItem} {document : Json}
    (h : itemOfJson document = .ok item) (hdistinct : document.DistinctNames) :
    item.tree.checkKeys = .ok () := by
  induction item using SchemaItem.induction generalizing document with
  | bare kind => rfl
  | flagged spec => rfl
  | nested schema ih =>
    obtain ⟨members, rfl, -, hread⟩ := reads_of_itemOfJson h hdistinct
    have hinner := ((Json.distinctNames_obj_iff members).mp hdistinct).2
    exact checkKeys_of_reads hread fun member hmember pair hpair hitem =>
      ih pair hpair hitem (hinner member hmember)

/-- What a key of a schema stands for was read from what the members bind that name to. -/
theorem lookup?_of_reads {members : List (String × Json)} {schema : Schema}
    (h : List.Forall₂ ReadsMember members schema.entries) (hdistinct : Members.Distinct members)
    {key : String} {tree : SchemaTree} (hlookup : Members.lookup? schema.items key = some tree) :
    ∃ document item, Members.lookup? members key = some document ∧
      itemOfJson document = .ok item ∧ item.tree = tree := by
  obtain ⟨item, hentry, htree⟩ := exists_entry_of_mem_items (Members.mem_of_lookup? hlookup)
  obtain ⟨⟨name, document⟩, hmember, hread⟩ := exists_left_of_forall₂ h hentry
  obtain rfl : name = key := hread.key_eq
  exact ⟨document, item, (Members.lookup?_eq_some_iff hdistinct).mpr hmember, hread.item, htree⟩

/-- A schema below the root is read from a document whose `type` is no word for a kind, so it does
not look like a field. -/
theorem not_mistakable_of_itemOfJson {item : SchemaItem} {document : Json}
    (h : itemOfJson document = .ok item) (hdistinct : document.DistinctNames) :
    ¬ item.tree.Mistakable := by
  intro hmistakable
  induction item using SchemaItem.induction generalizing document with
  | bare kind => cases hmistakable
  | flagged spec => cases hmistakable
  | nested schema ih =>
    obtain ⟨members, rfl, hkind, hread⟩ := reads_of_itemOfJson h hdistinct
    obtain ⟨hmembers, hinner⟩ := (Json.distinctNames_obj_iff members).mp hdistinct
    rw [SchemaItem.tree_nested] at hmistakable
    cases hmistakable with
    | @here _ kind hbare =>
      obtain ⟨inner, item, hlookup, hitem, htree⟩ := lookup?_of_reads hread hmembers hbare
      obtain rfl : item = .bare kind := SchemaItem.ext htree
      obtain rfl := itemOfJson_eq_bare_iff.mp hitem
      simp [namesKind, hlookup] at hkind
    | inside hmem hmistakable =>
      obtain ⟨item, hentry, rfl⟩ := exists_entry_of_mem_items hmem
      obtain ⟨member, hmember, hreads⟩ := exists_left_of_forall₂ hread hentry
      exact ih _ hentry hreads.item (hinner member hmember) hmistakable

/-- A schema that was read is usable: its keys are the names of the document, none of them with a
dot, and its own JSON form is read as the same schema. -/
structure Usable (document : Json) (schema : Schema) : Prop where
  keys : SameKeys document schema.tree
  checked : schema.checkKeys = .ok ()
  stable : ofJson schema.toJson = .ok schema

theorem usable_of_reads {members : List (String × Json)} {schema : Schema}
    (h : List.Forall₂ ReadsMember members schema.entries)
    (hdistinct : (Json.obj members).DistinctNames) : Usable (.obj members) schema := by
  have hinner := ((Json.distinctNames_obj_iff members).mp hdistinct).2
  have hchecked : schema.checkKeys = .ok () :=
    checkKeys_of_reads h fun member hmember _ _ hitem =>
      checkKeys_of_itemOfJson hitem (hinner member hmember)
  refine ⟨sameKeys_of_reads h fun member hmember _ _ hitem =>
    sameKeys_of_itemOfJson hitem (hinner member hmember), hchecked, ?_⟩
  have hitems : ∀ pair ∈ schema.entries,
      itemOfJson pair.2.toJson = pair.2.tree.checkKeys.map fun _ => pair.2 := by
    intro pair hmem
    obtain ⟨member, hmember, hread⟩ := exists_left_of_forall₂ h hmem
    exact itemOfJson_toJson (not_mistakable_of_itemOfJson hread.item (hinner member hmember))
  have hstable := itemsOfJson_items hitems
  rw [checkKeys, tree, SchemaTree.checkKeys] at hchecked
  rw [hchecked] at hstable
  exact hstable

end Schema

end DocumentSearch
