import Mathlib.Data.List.Forall2
import DocumentSearch.Proofs.Schema.Tree

/-! The leaves of a schema name every field once. They stand in the order of their addresses, an
item before those after it and the items of a nested schema at its place, and the path of each leads
back to the field that it was made from. -/

namespace DocumentSearch

/-- A field of a tree with its address and the keys on the way to it. -/
structure Place where
  address : List Nat
  keys : List String
  spec : FieldSpec

namespace Place

/-- The place as it is seen from a schema that holds the tree under a key. -/
def under (index : Nat) (key : String) (place : Place) : Place :=
  ⟨index :: place.address, key :: place.keys, place.spec⟩

def leaf (place : Place) : Leaf := ⟨Path.join place.keys, place.spec⟩

end Place

namespace SchemaTree

mutual

/-- The places of all fields of a tree. -/
def places : SchemaTree → List Place
  | .bare kind => [⟨[], [], ⟨kind, {}⟩⟩]
  | .flagged spec => [⟨[], [], spec⟩]
  | .nested items => placesFrom 0 items

def placesFrom (index : Nat) : List (String × SchemaTree) → List Place
  | [] => []
  | (key, tree) :: rest => (places tree).map (Place.under index key) ++ placesFrom (index + 1) rest

end

/-! ## The places are the fields -/

theorem mem_placesFrom_iff {index : Nat} {items : List (String × SchemaTree)} {place : Place} :
    place ∈ placesFrom index items ↔
      ∃ i key tree, items[i]? = some (key, tree) ∧
        ∃ inner ∈ places tree, place = inner.under (index + i) key := by
  induction items generalizing index with
  | nil => simp [placesFrom]
  | cons pair rest ih =>
    obtain ⟨key, tree⟩ := pair
    rw [placesFrom, List.mem_append, List.mem_map, ih]
    constructor
    · rintro (⟨inner, hinner, rfl⟩ | ⟨i, key', tree', hitem, inner, hinner, rfl⟩)
      · exact ⟨0, key, tree, rfl, inner, hinner, rfl⟩
      · refine ⟨i + 1, key', tree', by simpa using hitem, inner, hinner, ?_⟩
        rw [Nat.add_assoc, Nat.add_comm 1 i]
    · rintro ⟨i, key', tree', hitem, inner, hinner, rfl⟩
      cases i with
      | zero =>
        obtain ⟨rfl, rfl⟩ : key = key' ∧ tree = tree' := by simpa using hitem
        exact .inl ⟨inner, hinner, rfl⟩
      | succ i =>
        refine .inr ⟨i, key', tree', by simpa using hitem, inner, hinner, ?_⟩
        rw [Nat.add_assoc, Nat.add_comm 1 i]

theorem LeafAt.mem_places {tree : SchemaTree} {address : List Nat} {keys : List String}
    {spec : FieldSpec} (h : LeafAt tree address keys spec) :
    ⟨address, keys, spec⟩ ∈ tree.places := by
  induction h with
  | bare kind => simp [places]
  | flagged spec => simp [places]
  | @nested items index key tree address keys spec hitem hleaf ih =>
    rw [places, mem_placesFrom_iff]
    exact ⟨index, key, tree, hitem, _, ih, by simp [Place.under]⟩

theorem leafAt_of_mem_places {tree : SchemaTree} {place : Place} (h : place ∈ tree.places) :
    LeafAt tree place.address place.keys place.spec := by
  induction tree using SchemaTree.induction generalizing place with
  | bare kind =>
    obtain rfl : place = ⟨[], [], ⟨kind, {}⟩⟩ := by simpa [places] using h
    exact .bare kind
  | flagged spec =>
    obtain rfl : place = ⟨[], [], spec⟩ := by simpa [places] using h
    exact .flagged spec
  | nested items ih =>
    rw [places, mem_placesFrom_iff] at h
    obtain ⟨i, key, tree, hitem, inner, hinner, rfl⟩ := h
    rw [Nat.zero_add]
    exact .nested hitem (ih _ (List.mem_of_getElem? hitem) hinner)

/-! ## The places stand in the order of their addresses -/

theorem pairwise_places (tree : SchemaTree) :
    tree.places.Pairwise fun a b => List.Lex (· < ·) a.address b.address := by
  induction tree using SchemaTree.induction with
  | bare kind => simp [places]
  | flagged spec => simp [places]
  | nested items ih =>
    rw [places]
    -- The induction over the items needs the index of the first one to be any number.
    suffices hfrom : ∀ index, (placesFrom index items).Pairwise
        fun a b => List.Lex (· < ·) a.address b.address from hfrom 0
    induction items with
    | nil => simp [placesFrom]
    | cons pair rest ihrest =>
      obtain ⟨key, tree⟩ := pair
      intro index
      rw [placesFrom, List.pairwise_append]
      refine ⟨?_, ihrest (fun pair hmem => ih pair (by simp [hmem])) (index + 1), ?_⟩
      · exact (ih (key, tree) (by simp)).map _ fun a b hab => .cons hab
      · intro a ha b hb
        obtain ⟨inner, -, rfl⟩ := List.mem_map.mp ha
        obtain ⟨i, key', tree', -, inner', -, rfl⟩ := mem_placesFrom_iff.mp hb
        exact .rel (by omega)

/-! ## The leaves are the places -/

theorem chains_eq (tree : SchemaTree) :
    chains tree = tree.places.map fun place => (place.keys, place.spec) := by
  induction tree using SchemaTree.induction with
  | bare kind => rfl
  | flagged spec => rfl
  | nested items ih =>
    rw [chains, places]
    suffices hfrom : ∀ index, chainsOf items =
        (placesFrom index items).map fun place => (place.keys, place.spec) from hfrom 0
    induction items with
    | nil => intro index; rfl
    | cons pair rest ihrest =>
      obtain ⟨key, tree⟩ := pair
      intro index
      rw [chainsOf, placesFrom, List.map_append, ih (key, tree) (by simp),
        ← ihrest (fun pair hmem => ih pair (by simp [hmem])) (index + 1)]
      simp [Place.under, Function.comp_def]

/-- The way to a field starts with a key of the schema. -/
theorem exists_key_of_mem_chainsOf {items : List (String × SchemaTree)}
    {chain : List String × FieldSpec} (h : chain ∈ chainsOf items) :
    ∃ key ∈ Members.keys items, ∃ rest, chain.1 = key :: rest := by
  induction items with
  | nil => simp [chainsOf] at h
  | cons pair rest ih =>
    obtain ⟨key, tree⟩ := pair
    rw [chainsOf, List.mem_append] at h
    rcases h with hfirst | hrest
    · obtain ⟨inner, -, rfl⟩ := List.mem_map.mp hfirst
      exact ⟨key, List.mem_cons_self, inner.1, rfl⟩
    · obtain ⟨other, hother, hchain⟩ := ih hrest
      exact ⟨other, List.mem_cons_of_mem key hother, hchain⟩

end SchemaTree

/-! ## Schemas -/

namespace Schema

open SchemaTree

theorem leaves_eq_places (schema : Schema) : schema.leaves = schema.tree.places.map Place.leaf := by
  rw [leaves, chains_eq, List.map_map]
  rfl

/-- No two fields are reached by the same keys. -/
theorem nodup_keys_places (schema : Schema) : (schema.tree.places.map Place.keys).Nodup := by
  rw [List.Nodup, List.pairwise_map]
  refine (pairwise_places schema.tree).imp_of_mem ?_
  intro a b ha hb hlex hkeys
  have haddress := (leafAt_of_mem_places ha).address_unique
    (hkeys ▸ leafAt_of_mem_places hb) schema.distinct
  rw [haddress] at hlex
  exact List.lex_irrefl (fun n => Nat.lt_irrefl n) _ hlex

/-- A leaf is the entry of the field at an address: splitting its path gives the keys on the way
there, looking these up leads to a field of the same description, and no other address lies behind
them. -/
structure EntryOf (schema : Schema) (address : List Nat) (leaf : Leaf) : Prop where
  place : LeafAt schema.tree address (Path.split leaf.path) leaf.spec
  found : ∃ tree, schema.tree.follow? (Path.split leaf.path) = some tree ∧
    tree.spec? = some leaf.spec
  only : ∀ other spec, LeafAt schema.tree other (Path.split leaf.path) spec → other = address

end Schema

namespace CheckedSchema

open SchemaTree Schema

variable (schema : CheckedSchema)

theorem split_leaf_path {place : Place} (hmem : place ∈ schema.tree.places) :
    Path.split place.leaf.path = place.keys := by
  obtain ⟨address, keys, spec⟩ := place
  have hleaf := leafAt_of_mem_places hmem
  have hnonempty : keys ≠ [] := by
    rintro rfl
    cases hleaf
  exact Path.split_join hnonempty (hleaf.undotted schema.checked)

/-- The keys on the way to a field are those that its path splits into. -/
theorem split_join_of_mem_chains {chain : List String × FieldSpec}
    (hmem : chain ∈ schema.tree.chains) : Path.split (Path.join chain.1) = chain.1 := by
  rw [chains_eq] at hmem
  obtain ⟨place, hplace, rfl⟩ := List.mem_map.mp hmem
  exact schema.split_leaf_path hplace

/-- The leaves tell the keys on the way to every field. -/
theorem map_split_leaves :
    schema.leaves.map (fun leaf => (Path.split leaf.path, leaf.spec)) = schema.tree.chains := by
  rw [leaves, List.map_map]
  conv_rhs => rw [← List.map_id schema.tree.chains]
  apply List.map_congr_left
  intro chain hmem
  simp [schema.split_join_of_mem_chains hmem]

/-- The paths of the leaves split into the keys on the way to the fields. -/
theorem split_leaves :
    schema.leaves.map (fun leaf => Path.split leaf.path) = schema.tree.places.map Place.keys := by
  rw [leaves_eq_places, List.map_map]
  exact List.map_congr_left fun place hmem => schema.split_leaf_path hmem

theorem nodup_leaf_paths : (schema.leaves.map Leaf.path).Nodup := by
  refine List.Nodup.of_map Path.split ?_
  rw [List.map_map]
  exact schema.split_leaves ▸ schema.nodup_keys_places

theorem entryOf_leaf {place : Place} (hmem : place ∈ schema.tree.places) :
    EntryOf schema.toSchema place.address place.leaf := by
  have hleaf := leafAt_of_mem_places hmem
  have hsplit := schema.split_leaf_path hmem
  refine ⟨?_, ?_, ?_⟩
  · rw [hsplit]
    exact hleaf
  · rw [hsplit]
    exact hleaf.follow?_eq schema.distinct
  · intro other spec hother
    rw [hsplit] at hother
    exact hleaf.address_unique hother schema.distinct

end CheckedSchema

namespace Schema

open SchemaTree

/-- In a schema with usable keys, the leaves are the fields, each named once, in the order of the
document; their paths are different, and each leads back to the field that it names. -/
theorem leaves_enumerate (schema : CheckedSchema) :
    ∃ addresses : List (List Nat),
      addresses.Pairwise (List.Lex (· < ·)) ∧
      (∀ address, address ∈ addresses ↔ ∃ keys spec, LeafAt schema.tree address keys spec) ∧
      List.Forall₂ (EntryOf schema.toSchema) addresses schema.leaves ∧
      (schema.leaves.map Leaf.path).Nodup := by
  refine ⟨schema.tree.places.map Place.address, ?_, ?_, ?_, schema.nodup_leaf_paths⟩
  · exact List.pairwise_map.mpr (pairwise_places schema.tree)
  · intro address
    constructor
    · intro hmem
      obtain ⟨place, hplace, rfl⟩ := List.mem_map.mp hmem
      exact ⟨_, _, leafAt_of_mem_places hplace⟩
    · rintro ⟨keys, spec, hleaf⟩
      exact List.mem_map.mpr ⟨_, hleaf.mem_places, rfl⟩
  · rw [leaves_eq_places, List.forall₂_map_left_iff, List.forall₂_map_right_iff,
      List.forall₂_same]
    exact fun place hmem => schema.entryOf_leaf hmem

theorem leaves_enumerate_empty_keys :
    let schema : CheckedSchema :=
      { items := [("", .nested [("a", .bare .text), ("", .nested [])]),
          ("a", .nested [("", .flagged ⟨.bool, { fast? := some false }⟩), ("e", .nested [])])] }
    ∃ addresses : List (List Nat),
      addresses.Pairwise (List.Lex (· < ·)) ∧
      (∀ address, address ∈ addresses ↔ ∃ keys spec, LeafAt schema.tree address keys spec) ∧
      List.Forall₂ (EntryOf schema.toSchema) addresses
        [⟨".a", ⟨.text, {}⟩⟩, ⟨"a.", ⟨.bool, { fast? := some false }⟩⟩] ∧
      [".a", "a."].Nodup := by
  intro schema
  exact leaves_enumerate schema

end Schema

end DocumentSearch
