import DocumentSearch.Proofs.Pointwise
import DocumentSearch.Proofs.Schema.Tree
import DocumentSearch.Schema.Document

/-! Reading the JSON form of a schema. Below the root, an object whose `type` is a word for a kind
is read as a field, so a nested schema that binds `type` to a bare kind is mistaken for one. Where
there is none, reading gives the schema back, or stops at the key that a check of the keys reports.
-/

namespace DocumentSearch

/-- Somewhere in a tree, a nested schema binds `type` to a bare kind: its document looks like that
of a field. -/
inductive SchemaTree.Mistakable : SchemaTree → Prop where
  | here {items : List (String × SchemaTree)} {kind : FieldKind} :
      Members.lookup? items "type" = some (.bare kind) → Mistakable (.nested items)
  | inside {items : List (String × SchemaTree)} {key : String} {tree : SchemaTree} :
      (key, tree) ∈ items → Mistakable tree → Mistakable (.nested items)

namespace Schema

open SchemaTree

/-- Below its root, a schema holds one that looks like a field. -/
def Mistakable (schema : Schema) : Prop := ∃ pair ∈ schema.items, pair.2.Mistakable

/-! ## What is read as a field -/

theorem lookup?_itemsToJson (items : List (String × SchemaTree)) (key : String) :
    Members.lookup? (itemsToJson items) key =
      (Members.lookup? items key).map SchemaTree.toJson := by
  induction items with
  | nil => rfl
  | cons pair rest ih =>
    obtain ⟨name, tree⟩ := pair
    by_cases hname : name = key
    · simp [itemsToJson, Members.lookup?, hname]
    · simp [itemsToJson, Members.lookup?, hname, ih]

/-- The document of a nested schema looks like that of a field exactly if `type` is bound to a bare
kind. -/
theorem namesKind_itemsToJson_iff (items : List (String × SchemaTree)) :
    namesKind (itemsToJson items) = true ↔
      ∃ kind, Members.lookup? items "type" = some (.bare kind) := by
  rw [namesKind, lookup?_itemsToJson]
  cases Members.lookup? items "type" with
  | none => simp
  | some tree =>
    cases tree with
    | bare kind => simp [SchemaTree.toJson]
    | flagged spec => simp [SchemaTree.toJson, FieldSpec.toJson]
    | nested inner => simp [SchemaTree.toJson]

theorem itemOfJson_nested {members : List (String × Json)} (h : namesKind members ≠ true) :
    itemOfJson (.obj members) = ((itemsOfJson members).map ofPairs).map .nested := by
  rw [itemOfJson, if_neg h]
  cases itemsOfJson members <;> rfl

theorem itemOfJson_flagged (spec : FieldSpec) :
    itemOfJson (SchemaItem.flagged spec).toJson = .ok (.flagged spec) := by
  have hkind : namesKind spec.members = true := by
    simp [namesKind, FieldSpec.members, Members.lookup?]
  have hread : readField (.obj spec.members) = .ok spec := by
    rw [readField, ← FieldSpec.toJson, FieldSpec.ofJson_toJson]
  rw [SchemaItem.toJson, SchemaItem.tree_flagged, SchemaTree.toJson, FieldSpec.toJson, itemOfJson,
    if_pos hkind, hread]
  rfl

/-! ## Members one by one -/

/-- A member of an object is read as a key with its item. -/
structure ReadsMember (member : String × Json) (pair : String × SchemaItem) : Prop where
  key_eq : member.1 = pair.1
  undotted : '.' ∉ member.1.toList
  item : itemOfJson member.2 = .ok pair.2

theorem itemsOfJson_eq_ok_iff {members : List (String × Json)}
    {pairs : List (String × SchemaItem)} :
    itemsOfJson members = .ok pairs ↔ List.Forall₂ ReadsMember members pairs := by
  let readMember (member : String × Json) : Except Fault (String × SchemaItem) :=
    if Path.dotted member.1 then .error (Flaw.dottedKey member.1).fault
    else (itemOfJson member.2).map fun item => (member.1, item)
  have hnil : itemsOfJson [] = .ok [] := by rw [itemsOfJson]
  have hcons : ∀ member rest, itemsOfJson (member :: rest) =
      (readMember member).bind fun pair => (itemsOfJson rest).map (pair :: ·) := by
    rintro ⟨key, document⟩ rest
    rw [itemsOfJson]
    by_cases hdotted : Path.dotted key = true
    · simp [readMember, hdotted, Except.bind]
    · simp only [readMember, hdotted]
      cases itemOfJson document <;> rfl
  have hmember : ∀ member pair, readMember member = .ok pair ↔ ReadsMember member pair := by
    rintro ⟨key, document⟩ ⟨name, item⟩
    by_cases hdotted : Path.dotted key = true
    · refine iff_of_false (by simp [readMember, hdotted]) fun h => ?_
      simpa [hdotted] using (Path.dotted_eq_false_iff key).mpr h.undotted
    · have hundotted : '.' ∉ key.toList := by simpa [Path.dotted] using hdotted
      simp only [readMember, hdotted, Bool.false_eq_true, if_false, map_eq_ok_iff]
      constructor
      · rintro ⟨read, hread, heq⟩
        obtain ⟨rfl, rfl⟩ := Prod.mk.inj heq
        exact ⟨rfl, hundotted, hread⟩
      · intro h
        obtain rfl : key = name := h.key_eq
        exact ⟨item, h.item, rfl⟩
  rw [eq_ok_iff_forall₂ hnil hcons]
  simp only [hmember]

theorem itemsToJson_treesOf (pairs : List (String × SchemaItem)) :
    itemsToJson (treesOf pairs) = pairs.map fun pair => (pair.1, pair.2.toJson) := by
  induction pairs with
  | nil => rfl
  | cons pair rest ih =>
    rw [List.map_cons, ← ih]
    rfl

/-! ## Schemas that read back -/

/-- If every item reads back as far as its keys are usable, so does the list of items. -/
theorem itemsOfJson_itemsToJson {pairs : List (String × SchemaItem)}
    (h : ∀ pair ∈ pairs,
      itemOfJson pair.2.toJson = pair.2.tree.checkKeys.map fun _ => pair.2) :
    itemsOfJson (itemsToJson (treesOf pairs)) =
      (checkItems (treesOf pairs)).map fun _ => pairs := by
  rw [itemsToJson_treesOf]
  induction pairs with
  | nil => rfl
  | cons pair rest ih =>
    obtain ⟨key, item⟩ := pair
    have hitem := h (key, item) List.mem_cons_self
    have hrest := ih fun other hmem => h other (List.mem_cons_of_mem _ hmem)
    rw [List.map_cons, itemsOfJson, treesOf, List.map_cons, checkItems, ← treesOf]
    by_cases hdotted : Path.dotted key = true
    · rw [if_pos hdotted, if_pos hdotted]
      rfl
    · rw [if_neg hdotted, if_neg hdotted, hitem, hrest]
      cases item.tree.checkKeys with
      | error fault => rfl
      | ok _ =>
        cases checkItems (treesOf rest) with
        | error fault => rfl
        | ok _ => rfl

/-- The items of a schema read back as far as their keys are usable, if each of them does. -/
theorem itemsOfJson_items {schema : Schema} (h : ∀ pair ∈ schema.entries,
      itemOfJson pair.2.toJson = pair.2.tree.checkKeys.map fun _ => pair.2) :
    (itemsOfJson (itemsToJson schema.items)).map ofPairs =
      (checkItems schema.items).map fun _ => schema := by
  have hentries := itemsOfJson_itemsToJson h
  rw [treesOf_entries] at hentries
  rw [hentries]
  cases checkItems schema.items with
  | error fault => rfl
  | ok _ => exact congrArg Except.ok schema.ofPairs_entries

/-- An item that is not mistaken reads back, or is refused for the key that its check reports. -/
theorem itemOfJson_toJson {item : SchemaItem} (h : ¬ item.tree.Mistakable) :
    itemOfJson item.toJson = item.tree.checkKeys.map fun _ => item := by
  induction item using SchemaItem.induction with
  | bare kind =>
    rw [SchemaItem.toJson, SchemaItem.tree_bare, SchemaTree.toJson, itemOfJson, readKind,
      FieldKind.ofWord?_token]
    rfl
  | flagged spec => exact itemOfJson_flagged spec
  | nested schema ih =>
    have hkind : namesKind (itemsToJson schema.items) ≠ true := by
      intro hnames
      obtain ⟨kind, hbare⟩ := (namesKind_itemsToJson_iff schema.items).mp hnames
      exact h (.here hbare)
    have hitems := itemsOfJson_items fun pair hmem =>
      ih pair hmem fun hinside => h (.inside (mem_items_of_mem_entries hmem) hinside)
    rw [SchemaItem.toJson, SchemaItem.tree_nested, SchemaTree.toJson, itemOfJson_nested hkind,
      hitems, SchemaTree.checkKeys]
    cases checkItems schema.items <;> rfl

/-! ## Schemas that do not -/

/-- Where a schema reads back, each of its items does. -/
theorem itemOfJson_of_itemsOfJson {schema : Schema}
    (h : (itemsOfJson (itemsToJson schema.items)).map ofPairs = .ok schema)
    {pair : String × SchemaItem} (hmem : pair ∈ schema.entries) :
    itemOfJson pair.2.toJson = .ok pair.2 := by
  obtain ⟨pairs, hpairs, hschema⟩ := map_eq_ok_iff.mp h
  rw [← treesOf_entries, itemsToJson_treesOf] at hpairs
  have hread := List.forall₂_map_left_iff.mp (itemsOfJson_eq_ok_iff.mp hpairs)
  have hkeys : Members.keys schema.entries = Members.keys pairs :=
    map_eq_of_forall₂ hread fun _ _ _ hmember => hmember.key_eq
  -- the keys are all different, so the schema that was read has just these entries
  have hnodup : (Members.keys pairs).Nodup := by
    rw [← hkeys, keys_entries]
    exact schema.distinct.1
  obtain rfl : schema.entries = pairs := by rw [← hschema, entries_ofPairs hnodup]
  exact (List.forall₂_same.mp hread pair hmem).item

theorem itemOfJson_ne_of_mistakable {item : SchemaItem} (h : item.tree.Mistakable) :
    itemOfJson item.toJson ≠ .ok item := by
  intro hread
  induction item using SchemaItem.induction with
  | bare kind => cases h
  | flagged spec => cases h
  | nested schema ih =>
    rw [SchemaItem.tree_nested] at h
    rw [SchemaItem.toJson, SchemaItem.tree_nested, SchemaTree.toJson] at hread
    by_cases hkind : namesKind (itemsToJson schema.items) = true
    · rw [itemOfJson, if_pos hkind] at hread
      obtain ⟨spec, -, hflagged⟩ := map_eq_ok_iff.mp hread
      exact absurd (congrArg SchemaItem.tree hflagged) nofun
    · rw [itemOfJson_nested hkind] at hread
      obtain ⟨own, hown, heq⟩ := map_eq_ok_iff.mp hread
      obtain rfl : own = schema := SchemaItem.nested_injective heq
      cases h with
      | here hbare => exact hkind ((namesKind_itemsToJson_iff own.items).mpr ⟨_, hbare⟩)
      | inside hmem hinner =>
        obtain ⟨item, hentry, rfl⟩ := exists_entry_of_mem_items hmem
        exact ih _ hentry hinner (itemOfJson_of_itemsOfJson hown hentry)

/-- A schema reads back from its JSON form, or is refused for the key that the check of its keys
reports, if no schema below the root looks like a field; otherwise it never reads back. -/
theorem ofJson_toJson_eq_checkKeys (schema : Schema) :
    (¬ schema.Mistakable → ofJson schema.toJson = schema.checkKeys.map fun _ => schema) ∧
    (schema.Mistakable → ofJson schema.toJson ≠ .ok schema) := by
  constructor
  · intro h
    exact itemsOfJson_items fun pair hmem => itemOfJson_toJson fun hmistakable =>
      h ⟨_, mem_items_of_mem_entries hmem, hmistakable⟩
  · rintro ⟨⟨key, tree⟩, hmem, hmistakable⟩ hread
    obtain ⟨item, hentry, rfl⟩ := exists_entry_of_mem_items hmem
    exact itemOfJson_ne_of_mistakable hmistakable (itemOfJson_of_itemsOfJson hread hentry)

theorem ofJson_toJson_eq_checkKeys_type :
    let plain : Schema :=
      { items := [("type", .bare .text), ("n", .nested
          [("type", .flagged ⟨.bool, { fast? := some false }⟩), ("a.b", .bare .date)])] }
    let masked : Schema :=
      { items := [("o", .nested [("n", .nested [("x", .bare .text), ("type", .bare .date)])])] }
    (¬ plain.Mistakable ∧ ofJson plain.toJson = .error (Flaw.dottedKey "a.b").fault) ∧
    (masked.Mistakable ∧ ofJson masked.toJson ≠ .ok masked) := by
  intro plain masked
  have hplain : ¬ plain.Mistakable := by
    rintro ⟨pair, hmem, h⟩
    rcases List.mem_cons.mp hmem with rfl | hmem
    · cases h
    · obtain rfl := List.mem_singleton.mp hmem
      cases h with
      | here hbare => simp [Members.lookup?] at hbare
      | inside hmem h =>
        rcases List.mem_cons.mp hmem with heq | hmem
        · cases heq
          cases h
        · cases List.mem_singleton.mp hmem
          cases h
  have hmasked : masked.Mistakable := by
    refine ⟨_, List.mem_singleton_self _, .inside (List.mem_singleton_self _) ?_⟩
    have hbare : Members.lookup? [("x", SchemaTree.bare .text), ("type", .bare .date)] "type" =
        some (.bare .date) := rfl
    exact .here hbare
  exact ⟨⟨hplain, (ofJson_toJson_eq_checkKeys plain).1 hplain⟩,
    hmasked, (ofJson_toJson_eq_checkKeys masked).2 hmasked⟩

end Schema

end DocumentSearch
