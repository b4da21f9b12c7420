import DocumentSearch.Proofs.Schema.Preorder
import DocumentSearch.Reply.Hit

/-! Rebuilding a document from the leaves of a schema. Values are put one after another where their
paths lead, and what comes out is the tree of the schema with its fields replaced by their values.
-/

namespace DocumentSearch

namespace SchemaTree

/-! ## What values leave of a schema -/

mutual

/-- A tree with every field replaced by its value, each value found by the keys on the way to it.
Nothing is left of a field without a value, nor of a schema in which no field has one. -/
def restrict? (value? : List String → Option Json) : SchemaTree → Option Json
  | .bare _ | .flagged _ => value? []
  | .nested items =>
    match restrictItems value? items with
    | [] => none
    | member :: rest => some (.obj (member :: rest))

/-- The members that are left of the items of a schema, in the order of the schema. -/
def restrictItems (value? : List String → Option Json) :
    List (String × SchemaTree) → Members Json
  | [] => []
  | (key, tree) :: rest =>
    ((restrict? (fun keys => value? (key :: keys)) tree).toList.map fun value => (key, value))
      ++ restrictItems value? rest

end

theorem keys_restrictItems_sublist (value? : List String → Option Json)
    (items : List (String × SchemaTree)) :
    (Members.keys (restrictItems value? items)).Sublist (Members.keys items) := by
  induction items with
  | nil => simp [restrictItems]
  | cons pair rest ih =>
    obtain ⟨key, tree⟩ := pair
    rw [restrictItems, Members.keys_append, Members.keys_cons]
    cases restrict? (fun keys => value? (key :: keys)) tree with
    | none => exact ih.cons key
    | some value => exact ih.cons_cons key

end SchemaTree

namespace Hit

open SchemaTree Schema

/-! ## Putting one value in its place -/

/-- What a value makes of the place where its keys start. -/
def placeAt (value : Json) (keys : List String) (slot? : Option Json) : Json :=
  match keys with
  | [] => value
  | _ :: _ => .obj (place value keys (membersOf slot?))

theorem placeAt_of_ne_nil (value : Json) {keys : List String} (h : keys ≠ [])
    (slot? : Option Json) :
    placeAt value keys slot? = .obj (place value keys (membersOf slot?)) := by
  cases keys with
  | nil => contradiction
  | cons key rest => rfl

theorem place_cons (value : Json) (key : String) (rest : List String) (document : Members Json) :
    place value (key :: rest) document =
      document.put key (placeAt value rest (document.lookup? key)) := by
  cases rest with
  | nil => rfl
  | cons next rest => rfl

/-- Below a new key, a value makes an object of its own. -/
theorem place_of_not_mem {key : String} {document : Members Json} (h : key ∉ Members.keys document)
    (value : Json) {keys : List String} (hkeys : keys ≠ []) :
    place value (key :: keys) document = document ++ [(key, .obj (place value keys []))] := by
  rw [place_cons, placeAt_of_ne_nil value hkeys, Members.lookup?_eq_none_iff.mpr h,
    Members.put_of_not_mem h]
  rfl

/-- Below a key that holds an object, a value goes into that object. -/
theorem place_of_object {key : String} {document : Members Json} (h : key ∉ Members.keys document)
    (inner : Members Json) (value : Json) {keys : List String} (hkeys : keys ≠ []) :
    place value (key :: keys) (document ++ [(key, .obj inner)]) =
      document ++ [(key, .obj (place value keys inner))] := by
  have hlookup : Members.lookup? (document ++ [(key, .obj inner)]) key = some (.obj inner) := by
    rw [Members.lookup?_append_of_not_mem h, Members.lookup?, if_pos rfl]
  rw [place_cons, placeAt_of_ne_nil value hkeys, hlookup, Members.put_append_of_not_mem h]
  rfl

theorem place_ne_nil (value : Json) {keys : List String} (hkeys : keys ≠ [])
    (document : Members Json) : place value keys document ≠ [] := by
  cases keys with
  | nil => contradiction
  | cons key rest =>
    rw [place_cons]
    exact Members.put_ne_nil _ _ _

/-! ## Putting values one after another -/

/-- A value with the keys that lead to its place. -/
abbrev Placement := List String × Json

def placeAll (placements : List Placement) (document : Members Json) : Members Json :=
  placements.foldl (fun document placement => place placement.2 placement.1 document) document

/-- A field of a hit, with the keys that its name is made of. -/
def Placement.ofField (field : String × Json) : Placement := (Path.split field.1, field.2)

theorem rebuild_eq_placeAll (fields : Members Json) :
    rebuild fields = placeAll (fields.map Placement.ofField) [] := by
  rw [placeAll, List.foldl_map]
  rfl

theorem placeAll_append (placements more : List Placement) (document : Members Json) :
    placeAll (placements ++ more) document = placeAll more (placeAll placements document) :=
  List.foldl_append

theorem placeAll_ne_nil {placements : List Placement} (hkeys : ∀ p ∈ placements, p.1 ≠ [])
    {document : Members Json} (h : document ≠ []) : placeAll placements document ≠ [] := by
  induction placements generalizing document with
  | nil => exact h
  | cons first rest ih =>
    exact ih (fun p hmem => hkeys p (List.mem_cons_of_mem _ hmem))
      (place_ne_nil _ (hkeys first List.mem_cons_self) document)

/-- A placement as it is seen from an object that holds the place under a key. -/
def Placement.under (key : String) (placement : Placement) : Placement :=
  (key :: placement.1, placement.2)

theorem placeAll_under_object {key : String} {document : Members Json}
    (h : key ∉ Members.keys document) {placements : List Placement}
    (hkeys : ∀ p ∈ placements, p.1 ≠ []) (inner : Members Json) :
    placeAll (placements.map (Placement.under key)) (document ++ [(key, .obj inner)]) =
      document ++ [(key, .obj (placeAll placements inner))] := by
  induction placements generalizing inner with
  | nil => rfl
  | cons first rest ih =>
    have hfirst := place_of_object h inner first.2 (hkeys first List.mem_cons_self)
    rw [List.map_cons, placeAll, List.foldl_cons, Placement.under, hfirst]
    exact ih (fun p hmem => hkeys p (List.mem_cons_of_mem _ hmem)) _

/-- Values below one new key make one object, if there are any. -/
theorem placeAll_under {key : String} {document : Members Json} (h : key ∉ Members.keys document)
    {placements : List Placement} (hkeys : ∀ p ∈ placements, p.1 ≠ []) :
    placeAll (placements.map (Placement.under key)) document =
      match placeAll placements [] with
      | [] => document
      | member :: rest => document ++ [(key, .obj (member :: rest))] := by
  cases placements with
  | nil => rfl
  | cons first rest =>
    have hfirst := hkeys first List.mem_cons_self
    have hrest : ∀ p ∈ rest, p.1 ≠ [] := fun p hmem => hkeys p (List.mem_cons_of_mem _ hmem)
    have hone : placeAll ((first :: rest).map (Placement.under key)) document =
        document ++ [(key, .obj (placeAll (first :: rest) []))] := by
      rw [List.map_cons, placeAll, List.foldl_cons, Placement.under,
        place_of_not_mem h first.2 hfirst]
      exact placeAll_under_object h hrest _
    have hne : placeAll (first :: rest) [] ≠ [] :=
      placeAll_ne_nil hrest (place_ne_nil first.2 hfirst [])
    rw [hone]
    cases hall : placeAll (first :: rest) [] with
    | nil => contradiction
    | cons member others => rfl

/-! ## Putting the values of a schema -/

/-- The values that are given for fields, in the order of the fields. -/
def placements (value? : List String → Option Json) (chains : List (List String × FieldSpec)) :
    List Placement :=
  chains.filterMap fun chain => (value? chain.1).map fun value => (chain.1, value)

theorem placements_append (value? : List String → Option Json)
    (chains more : List (List String × FieldSpec)) :
    placements value? (chains ++ more) = placements value? chains ++ placements value? more :=
  List.filterMap_append

theorem placements_under (value? : List String → Option Json) (key : String)
    (chains : List (List String × FieldSpec)) :
    placements value? (chains.map fun chain => (key :: chain.1, chain.2)) =
      (placements (fun keys => value? (key :: keys)) chains).map (Placement.under key) := by
  rw [placements, placements, List.filterMap_map, List.map_filterMap]
  refine List.filterMap_congr fun chain _ => ?_
  simp [Function.comp_def, Placement.under]

theorem ne_nil_of_mem_chains {items : List (String × SchemaTree)}
    {chain : List String × FieldSpec} (h : chain ∈ chainsOf items) : chain.1 ≠ [] := by
  obtain ⟨key, -, rest, hchain⟩ := exists_key_of_mem_chainsOf h
  rw [hchain]
  exact List.cons_ne_nil key rest

theorem ne_nil_of_mem_placements {value? : List String → Option Json}
    {items : List (String × SchemaTree)} {placement : Placement}
    (h : placement ∈ placements value? (chainsOf items)) : placement.1 ≠ [] := by
  obtain ⟨chain, hchain, hvalue⟩ := List.mem_filterMap.mp h
  obtain ⟨value, -, rfl⟩ := Option.map_eq_some_iff.mp hvalue
  exact ne_nil_of_mem_chains hchain

/-- What is left of a tree when the values of its fields are put below a new key. -/
def PlacesTree (tree : SchemaTree) : Prop :=
  ∀ (value? : List String → Option Json) (key : String) (document : Members Json),
    key ∉ Members.keys document →
    placeAll ((placements value? (chains tree)).map (Placement.under key)) document =
      document ++ (restrict? value? tree).toList.map fun value => (key, value)

/-- The values of a schema, put after members with other names, make what is left of the schema. -/
theorem placeAll_chains {items : List (String × SchemaTree)}
    (hitems : ∀ pair ∈ items, PlacesTree pair.2) (value? : List String → Option Json)
    (document : Members Json)
    (hdistinct : (Members.keys document ++ Members.keys items).Nodup) :
    placeAll (placements value? (chainsOf items)) document =
      document ++ restrictItems value? items := by
  induction items generalizing document with
  | nil => simp [chainsOf, placements, placeAll, restrictItems]
  | cons pair rest ih =>
    obtain ⟨key, tree⟩ := pair
    have hnew : key ∉ Members.keys document := fun hmem =>
      (List.nodup_append.mp hdistinct).2.2 key hmem key List.mem_cons_self rfl
    rw [chainsOf, placements_append, placements_under, placeAll_append,
      hitems (key, tree) List.mem_cons_self _ key document hnew, restrictItems, ← List.append_assoc]
    refine ih (fun pair hmem => hitems pair (List.mem_cons_of_mem _ hmem)) _ ?_
    -- The names so far are those from before, with the key of the tree if anything is left of it.
    rw [Members.keys_append]
    refine List.Nodup.sublist ?_ hdistinct
    rw [List.append_assoc]
    refine (List.Sublist.refl _).append ?_
    cases restrict? (fun keys => value? (key :: keys)) tree with
    | none => exact List.sublist_cons_self key _
    | some value => exact List.Sublist.refl _

theorem placesTree_of_field {tree : SchemaTree} {spec : FieldSpec}
    (hchains : chains tree = [([], spec)])
    (hrestrict : ∀ value?, restrict? value? tree = value? []) : PlacesTree tree := by
  intro value? key document hnew
  rw [hchains, hrestrict]
  cases hvalue : value? [] with
  | none => simp [placements, hvalue, placeAll]
  | some value =>
    simp [placements, hvalue, placeAll, Placement.under, place, Members.put_of_not_mem hnew]

theorem placesTree_of_distinct {tree : SchemaTree} (h : Distinct tree) : PlacesTree tree := by
  induction tree using SchemaTree.induction with
  | bare kind => exact placesTree_of_field rfl fun _ => rfl
  | flagged spec => exact placesTree_of_field rfl fun _ => rfl
  | nested items ih =>
    intro value? key document hnew
    obtain ⟨hkeys, hinside⟩ := (distinct_nested_iff items).mp h
    have hitems : placeAll (placements value? (chainsOf items)) [] = restrictItems value? items :=
      placeAll_chains (fun pair hmem => ih pair hmem (hinside pair hmem)) value? [] hkeys
    rw [chains, placeAll_under hnew fun p hmem => ne_nil_of_mem_placements hmem, hitems,
      restrict?]
    cases restrictItems value? items with
    | nil => simp
    | cons member rest => rfl

/-! ## Hits -/

/-- The fields of a hit that are leaves of a schema, as values with the keys that lead to them. -/
theorem placements_of_fields (schema : CheckedSchema) {fields : Members Json}
    (hfields : (Members.keys fields).Sublist (schema.leaves.map Leaf.path)) :
    fields.map Placement.ofField =
      placements (fun keys => Members.lookup? fields (Path.join keys)) schema.tree.chains := by
  have hfilter := Members.eq_filterMap_of_sublist schema.nodup_leaf_paths hfields
  conv_lhs => rw [hfilter]
  rw [leaves, List.map_map, List.filterMap_map, List.map_filterMap, placements]
  refine List.filterMap_congr fun chain hmem => ?_
  simp [Function.comp_def, Placement.ofField, schema.split_join_of_mem_chains hmem]

theorem rebuild_eq_restrictItems (schema : CheckedSchema) {fields : Members Json}
    (hfields : (Members.keys fields).Sublist (schema.leaves.map Leaf.path)) :
    rebuild fields =
      restrictItems (fun keys => Members.lookup? fields (Path.join keys)) schema.items := by
  obtain ⟨hkeys, hinside⟩ := (distinct_nested_iff schema.items).mp schema.distinct
  rw [rebuild_eq_placeAll, placements_of_fields schema hfields]
  exact placeAll_chains (fun pair hmem => placesTree_of_distinct (hinside pair hmem)) _ [] hkeys

/-- From a hit whose fields are leaves of a schema, in the order of the schema, the document is
rebuilt as the schema with its fields replaced by their values, without the fields that the hit does
not have and without nested schemas of which nothing is left. -/
theorem document?_of_leaves {schema : CheckedSchema}
    (hwhole : wholeDocument ∉ Members.keys schema.items)
    {hit : Hit} {fields : Record Json} (hhit : hit.fields? = some fields)
    (hfields : (Members.keys fields.members).Sublist (schema.leaves.map Leaf.path)) :
    hit.document? = some (.obj
      (restrictItems (fun keys => Members.lookup? fields.members (Path.join keys))
        schema.items)) := by
  have hrebuild := rebuild_eq_restrictItems schema hfields
  have hnone : Members.lookup? (rebuild fields.members) wholeDocument = none := by
    rw [hrebuild]
    exact Members.lookup?_eq_none_iff.mpr fun hmem =>
      hwhole ((keys_restrictItems_sublist _ schema.items).subset hmem)
  simp only [document?, hhit, Option.map_some, hnone, Option.getD_none]
  rw [hrebuild]

theorem document?_of_leaves_some :
    let schema : CheckedSchema :=
      { items := [("", .nested [("a", .bare .text)]),
          ("p", .nested [("x", .bare .date), ("$", .flagged ⟨.bool, { fast? := some false }⟩),
            ("q", .nested [("z", .bare .text)])]),
          ("t", .bare .float)] }
    let fields : Record Json :=
      { members := [(".a", .obj [("b", .null)]), ("p.$", .bool true), ("t", .str "x.y")] }
    (wholeDocument ∉ Members.keys schema.items ∧
      (Members.keys fields.members).Sublist (schema.leaves.map Leaf.path)) ∧
    Hit.document? ⟨"k", "1", some fields⟩ = some (.obj [
      ("", .obj [("a", .obj [("b", .null)])]), ("p", .obj [("$", .bool true)]),
      ("t", .str "x.y")]) := by
  intro schema fields
  have hwhole : wholeDocument ∉ Members.keys schema.items := by decide
  have hfields : (Members.keys fields.members).Sublist (schema.leaves.map Leaf.path) := by decide
  exact ⟨⟨hwhole, hfields⟩, document?_of_leaves hwhole rfl hfields⟩

end Hit

end DocumentSearch
