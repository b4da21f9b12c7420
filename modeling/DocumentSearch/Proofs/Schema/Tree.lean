import Mathlib.Data.List.Nodup
import DocumentSearch.Schema.Leaf
import DocumentSearch.Proofs.Members

/-! Schemas as trees. A field is reached in two ways, by its address, which counts the items before
it at every level, and by the keys on the way to it; where no schema binds a key twice, the keys
lead to one address only. -/

namespace DocumentSearch

namespace SchemaTree

/-- Induction over trees, with the claim for everything that a key of a nested schema stands for. -/
@[elab_as_elim]
theorem induction {motive : SchemaTree → Prop}
    (bare : ∀ kind, motive (.bare kind))
    (flagged : ∀ spec, motive (.flagged spec))
    (nested : ∀ items, (∀ pair ∈ items, motive pair.2) → motive (.nested items)) :
    ∀ tree, motive tree
  | .bare kind => bare kind
  | .flagged spec => flagged spec
  | .nested items => nested items fun pair hmem =>
    have : sizeOf pair.2 < sizeOf items := by
      obtain ⟨key, tree⟩ := pair
      have := List.sizeOf_lt_of_mem hmem
      simp only [Prod.mk.sizeOf_spec] at this ⊢
      omega
    induction bare flagged nested pair.2

/-- What a tree says about the field that it is; a nested schema is no field. -/
def spec? : SchemaTree → Option FieldSpec
  | .bare kind => some ⟨kind, {}⟩
  | .flagged spec => some spec
  | .nested _ => none

/-- The tree that one comes to by looking up one key after another, each in the schema that the key
before it stands for. -/
def follow? : SchemaTree → List String → Option SchemaTree
  | tree, [] => some tree
  | .nested items, key :: rest => (Members.lookup? items key).bind fun tree => follow? tree rest
  | _, _ :: _ => none

/-- From a tree one comes to a field by an address, past the given keys. -/
inductive LeafAt : SchemaTree → List Nat → List String → FieldSpec → Prop where
  | bare (kind) : LeafAt (.bare kind) [] [] ⟨kind, {}⟩
  | flagged (spec) : LeafAt (.flagged spec) [] [] spec
  | nested {items : List (String × SchemaTree)} {index key tree address keys spec} :
      items[index]? = some (key, tree) → LeafAt tree address keys spec →
      LeafAt (.nested items) (index :: address) (key :: keys) spec

theorem checkItems_eq_ok_iff (items : List (String × SchemaTree)) :
    checkItems items = .ok () ↔
      ∀ pair ∈ items, Path.dotted pair.1 = false ∧ checkKeys pair.2 = .ok () := by
  induction items with
  | nil => simp [checkItems]
  | cons pair rest ih =>
    obtain ⟨key, tree⟩ := pair
    cases hdotted : Path.dotted key with
    | true => simp [checkItems, hdotted]
    | false =>
      cases hitem : checkKeys tree with
      | error fault => simp [checkItems, hdotted, hitem]
      | ok _ => simp [checkItems, hdotted, hitem, ih]

/-! ## What leads to a field -/

/-- Where no key is bound twice, the keys on the way to a field lead to one address. -/
theorem LeafAt.address_unique {tree : SchemaTree} {address other : List Nat} {keys : List String}
    {spec spec' : FieldSpec} (h : LeafAt tree address keys spec) (h' : LeafAt tree other keys spec')
    (hdistinct : Distinct tree) : other = address := by
  induction h generalizing other with
  | bare kind => cases h'; rfl
  | flagged spec => cases h'; rfl
  | @nested items index key tree address keys spec hitem hleaf ih =>
    obtain ⟨hkeys, hitems⟩ := (distinct_nested_iff items).mp hdistinct
    cases h' with
    | @nested _ index' _ tree' address' _ _ hitem' hleaf' =>
      have hlt : index' < (Members.keys items).length := by
        simpa [Members.keys] using (List.getElem?_eq_some_iff.mp hitem').1
      have hkey : (Members.keys items)[index']? = (Members.keys items)[index]? := by
        simp [Members.keys, hitem, hitem']
      have hindex : index' = index := (List.getElem?_inj hlt hkeys).mp hkey
      subst hindex
      obtain rfl : tree' = tree := by simpa [hitem] using hitem'.symm
      rw [ih hleaf' (hitems _ (List.mem_of_getElem? hitem))]

/-- Looking up the keys on the way to a field leads to that field. -/
theorem LeafAt.follow?_eq {tree : SchemaTree} {address : List Nat} {keys : List String}
    {spec : FieldSpec} (h : LeafAt tree address keys spec) (hdistinct : Distinct tree) :
    ∃ leaf, tree.follow? keys = some leaf ∧ leaf.spec? = some spec := by
  induction h with
  | bare kind => exact ⟨.bare kind, rfl, rfl⟩
  | flagged spec => exact ⟨.flagged spec, rfl, rfl⟩
  | @nested items index key tree address keys spec hitem hleaf ih =>
    obtain ⟨hkeys, hitems⟩ := (distinct_nested_iff items).mp hdistinct
    have hmem : (key, tree) ∈ items := List.mem_of_getElem? hitem
    obtain ⟨leaf, hfollow, hspec⟩ := ih (hitems _ hmem)
    refine ⟨leaf, ?_, hspec⟩
    simp [follow?, (Members.lookup?_eq_some_iff hkeys).mpr hmem, hfollow]

/-- None of the keys on the way to a field of a checked schema holds a dot. -/
theorem LeafAt.undotted {tree : SchemaTree} {address : List Nat} {keys : List String}
    {spec : FieldSpec} (h : LeafAt tree address keys spec) (hchecked : checkKeys tree = .ok ()) :
    ∀ key ∈ keys, Path.dotted key = false := by
  induction h with
  | bare kind => simp
  | flagged spec => simp
  | @nested items index key tree address keys spec hitem hleaf ih =>
    rw [checkKeys] at hchecked
    obtain ⟨hkey, hitem'⟩ :=
      (checkItems_eq_ok_iff items).mp hchecked _ (List.mem_of_getElem? hitem)
    intro other hmem
    rcases List.mem_cons.mp hmem with rfl | hmem
    · exact hkey
    · exact ih hitem' other hmem

end SchemaTree

/-! ## Items of a schema -/

namespace Schema

/-- The keys of a schema with what they stand for. -/
def entries (schema : Schema) : List (String × SchemaItem) :=
  schema.items.pmap (fun pair h => (pair.1, ⟨pair.2, h⟩))
    ((SchemaTree.distinct_nested_iff schema.items).mp schema.distinct).2

theorem treesOf_entries (schema : Schema) : treesOf schema.entries = schema.items := by
  rw [treesOf, entries, List.map_pmap]
  exact (List.pmap_eq_map _).trans (List.map_id schema.items)

theorem keys_treesOf (pairs : List (String × SchemaItem)) :
    Members.keys (treesOf pairs) = Members.keys pairs := by
  simp [treesOf, Members.keys, Function.comp_def]

theorem keys_entries (schema : Schema) :
    Members.keys schema.entries = Members.keys schema.items := by
  rw [← treesOf_entries, keys_treesOf]

theorem mem_items_of_mem_entries {schema : Schema} {pair : String × SchemaItem}
    (h : pair ∈ schema.entries) : (pair.1, pair.2.tree) ∈ schema.items := by
  rw [← treesOf_entries]
  exact List.mem_map_of_mem h

theorem exists_entry_of_mem_items {schema : Schema} {key : String} {tree : SchemaTree}
    (h : (key, tree) ∈ schema.items) :
    ∃ item : SchemaItem, (key, item) ∈ schema.entries ∧ item.tree = tree := by
  rw [← treesOf_entries] at h
  obtain ⟨⟨name, item⟩, hentry, heq⟩ := List.mem_map.mp h
  obtain ⟨rfl, htree⟩ := Prod.mk.inj heq
  exact ⟨item, hentry, htree⟩

theorem treesOf_injective : Function.Injective treesOf := by
  intro pairs others h
  refine List.map_injective_iff.mpr ?_ h
  rintro ⟨key, item⟩ ⟨name, other⟩ heq
  obtain ⟨rfl, htree⟩ := Prod.mk.inj heq
  exact congrArg (Prod.mk key) (SchemaItem.ext htree)

/-- Keys that are all different make a schema of just these keys. -/
theorem entries_ofPairs {pairs : List (String × SchemaItem)} (h : (Members.keys pairs).Nodup) :
    (ofPairs pairs).entries = pairs := by
  have hdistinct : Members.Distinct (treesOf pairs) := by rwa [Members.Distinct, keys_treesOf]
  apply treesOf_injective
  rw [treesOf_entries, items_ofPairs, Members.ofPairs_of_distinct hdistinct]

theorem ofPairs_entries (schema : Schema) : ofPairs schema.entries = schema := by
  apply Schema.ext
  rw [items_ofPairs, treesOf_entries, Members.ofPairs_of_distinct schema.distinct.1]

end Schema

/-- Induction over items, with the claim for everything that a key of a nested schema stands for. -/
@[elab_as_elim]
theorem SchemaItem.induction {motive : SchemaItem → Prop} (bare : ∀ kind, motive (.bare kind))
    (flagged : ∀ spec, motive (.flagged spec))
    (nested : ∀ schema : Schema, (∀ pair ∈ schema.entries, motive pair.2) →
      motive (.nested schema)) (item : SchemaItem) : motive item := by
  obtain ⟨tree, hdistinct⟩ := item
  induction tree using SchemaTree.induction with
  | bare kind => exact bare kind
  | flagged spec => exact flagged spec
  | nested items ih =>
    refine nested ⟨items, hdistinct⟩ fun pair hmem => ?_
    obtain ⟨key, tree⟩ := pair
    obtain ⟨inner, hinner, heq⟩ := List.mem_pmap.mp hmem
    obtain ⟨rfl, rfl⟩ := Prod.mk.inj heq
    exact ih _ hinner _

end DocumentSearch
