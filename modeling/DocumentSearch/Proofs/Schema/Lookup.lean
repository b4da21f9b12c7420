import DocumentSearch.Proofs.Schema.Preorder

/-! Finding a field by its path. The leaf with a path is the field that one comes to from the root
by the parts of the path, so a search in the list of leaves and a walk through the tree agree. -/

namespace DocumentSearch

namespace SchemaTree

/-- Looking up keys leads only to what can be reached by them. -/
theorem leafAt_of_follow? {tree leaf : SchemaTree} {keys : List String} {spec : FieldSpec}
    (hfollow : tree.follow? keys = some leaf) (hspec : leaf.spec? = some spec) :
    ∃ address, LeafAt tree address keys spec := by
  induction keys generalizing tree with
  | nil =>
    obtain rfl : tree = leaf := by simpa [follow?] using hfollow
    cases tree with
    | bare kind =>
      obtain rfl : _ = spec := Option.some.inj hspec
      exact ⟨[], .bare kind⟩
    | flagged own =>
      obtain rfl : own = spec := Option.some.inj hspec
      exact ⟨[], .flagged own⟩
    | nested items => simp [spec?] at hspec
  | cons key rest ih =>
    cases tree with
    | bare kind => simp [follow?] at hfollow
    | flagged own => simp [follow?] at hfollow
    | nested items =>
      rw [follow?] at hfollow
      obtain ⟨inner, hlookup, hinner⟩ := Option.bind_eq_some_iff.mp hfollow
      obtain ⟨address, hleaf⟩ := ih hinner
      obtain ⟨index, hindex⟩ := List.mem_iff_getElem?.mp (Members.mem_of_lookup? hlookup)
      exact ⟨index :: address, .nested hindex hleaf⟩

end SchemaTree

open SchemaTree

/-- The field that a path leads to from the root, through nested schemas. -/
def Schema.fieldAt? (schema : Schema) (path : String) : Option FieldSpec :=
  (schema.tree.follow? (Path.split path)).bind SchemaTree.spec?

/-- A path leads to a field exactly if the field is a leaf with that path. -/
theorem CheckedSchema.fieldAt?_eq_some_iff (schema : CheckedSchema) {path : String}
    {spec : FieldSpec} :
    schema.fieldAt? path = some spec ↔ ⟨path, spec⟩ ∈ schema.leaves := by
  constructor
  · intro h
    obtain ⟨leaf, hfollow, hspec⟩ := Option.bind_eq_some_iff.mp h
    obtain ⟨address, hleaf⟩ := leafAt_of_follow? hfollow hspec
    rw [Schema.leaves_eq_places]
    refine List.mem_map.mpr ⟨_, hleaf.mem_places, ?_⟩
    rw [Place.leaf, Path.join_split]
  · intro h
    rw [Schema.leaves_eq_places] at h
    obtain ⟨place, hplace, hleaf⟩ := List.mem_map.mp h
    obtain ⟨tree, hfollow, hspec⟩ := (schema.entryOf_leaf hplace).found
    rw [hleaf] at hfollow hspec
    exact Option.bind_eq_some_iff.mpr ⟨tree, hfollow, hspec⟩

end DocumentSearch
