import DocumentSearch.Command.Definition
import DocumentSearch.Proofs.Pointwise
import DocumentSearch.Proofs.Schema.Preorder
import DocumentSearch.Reply.Description
import DocumentSearch.Resp.Basic

/-! What the engine says about an index, read back. The description of an index that was created is
that of its definition, and it does not depend on the shape in which the engine lists names with
values or fields with kinds. -/

namespace DocumentSearch

/-- Names and values one after the other. -/
def inTurn {α : Type} (entries : List (α × α)) : List α :=
  entries.flatMap fun entry => [entry.1, entry.2]

theorem inTurn_cons {α : Type} (entry : α × α) (rest : List (α × α)) :
    inTurn (entry :: rest) = entry.1 :: entry.2 :: inTurn rest := rfl

namespace Description

/-! ## Lists of names and values -/

theorem pairs_inTurn (entries : List (Json × Json)) :
    pairs (inTurn entries) = entries.map fun entry => (entry.1.plainText, entry.2) := by
  induction entries with
  | nil => rfl
  | cons entry rest ih => rw [inTurn_cons, pairs, ih, List.map_cons]

theorem ofJson?_inTurn {entries : List (Json × Json)} (hne : entries ≠ []) :
    ofJson? (.arr (inTurn entries)) =
      some ((entries.map fun entry => (entry.1.plainText, entry.2)).foldl withEntry {}) := by
  cases entries with
  | nil => contradiction
  | cons entry rest =>
    rw [ofJson?, ← pairs_inTurn]
    rfl

theorem ofJson?_obj {members : List (String × Json)} (hne : members ≠ []) :
    ofJson? (.obj members) = some (members.foldl withEntry {}) := by
  cases members with
  | nil => contradiction
  | cons member rest => rfl

end Description

/-! ## The description of an index that was created -/

/-- The engine's word for a storage layout is its name in capital letters. -/
theorem Storage.lowercase_token (storage : Storage) :
    Text.lowercase storage.token = storage.name := by
  cases storage <;> decide

namespace IndexDefinition

open Description

/-- A field as the engine reports it: path and kind, as in the command, and after them whatever
words it has for the flags. -/
def reportedField (flags : Leaf → List Json) (leaf : Leaf) : Json :=
  .arr (.str leaf.path :: .str leaf.spec.kind.token :: flags leaf)

/-- What the engine reports of an index of this definition. -/
def report (definition : IndexDefinition) (flags : Leaf → List Json) : List (Json × Json) :=
  [(.str "name", .str definition.name), (.str "type", .str definition.storage.token),
      (.str "prefixes", .arr (definition.prefixes.map .str))]
    ++ definition.language?.toList.map (fun language => (.str "language", .str language.name))
    ++ [(.str "schema", .arr (definition.schema.leaves.map (reportedField flags)))]

theorem fieldOfEntry?_reportedField (flags : Leaf → List Json) (leaf : Leaf) :
    fieldOfEntry? (reportedField flags leaf) = some (leaf.path, leaf.spec.kind) := by
  rw [reportedField, fieldOfEntry?, FieldKind.ofWord?_token]
  rfl

/-- No two fields of a usable schema have one path, so all of them are kept. -/
theorem members_readFields_reported (schema : CheckedSchema) (flags : Leaf → List Json) :
    (readFields (.arr (schema.leaves.map (reportedField flags)))).members =
      schema.leaves.map fun leaf => (leaf.path, leaf.spec.kind) := by
  have hfields : (schema.leaves.map (reportedField flags)).filterMap fieldOfEntry? =
      schema.leaves.map fun leaf => (leaf.path, leaf.spec.kind) := by
    rw [List.filterMap_map, ← List.filterMap_eq_map]
    apply List.filterMap_congr
    intro leaf _
    exact fieldOfEntry?_reportedField flags leaf
  have hnodup : Members.Distinct (schema.leaves.map fun leaf => (leaf.path, leaf.spec.kind)) := by
    simpa [Members.Distinct, Members.keys, Function.comp_def] using schema.nodup_leaf_paths
  rw [readFields, Record.members_ofPairs, hfields, Members.ofPairs_of_distinct hnodup]

/-- Where an index can be created, the report of it reads as its definition: its name, its storage
by the engine's word in small letters, its prefixes and language, and each of its leaves with its
kind, in the order in which the command tells them. -/
theorem ofJson?_report {definition : IndexDefinition} {command : Command}
    (h : definition.command = .ok command) (flags : Leaf → List Json) :
    ∃ fields : Record FieldKind,
      fields.members = definition.schema.leaves.map (fun leaf => (leaf.path, leaf.spec.kind)) ∧
      Description.ofJson? (.arr (inTurn (definition.report flags))) =
        some { name := definition.name
               storage := definition.storage.name
               prefixes := definition.prefixes
               language? := definition.language?.map Language.name
               fields } := by
  obtain ⟨hchecked, -⟩ := command_eq_ok_iff.mp h
  refine ⟨_, members_readFields_reported ⟨definition.schema, hchecked⟩ flags, ?_⟩
  have hprefixes : readPrefixes (.arr (definition.prefixes.map .str)) = definition.prefixes := by
    simp [readPrefixes, Function.comp_def, Json.plainText]
  have hne : definition.report flags ≠ [] := by simp [report]
  rw [ofJson?_inTurn hne, report]
  cases definition.language? with
  | none => simp [withEntry, Json.plainText, hprefixes, Storage.lowercase_token]
  | some language =>
    simp [withEntry, Json.plainText, Json.text?, hprefixes, Storage.lowercase_token]

theorem ofJson?_report_keywords :
    let definition : IndexDefinition :=
      { name := "schema", storage := .json, prefixes := ["type", ""], language? := some .german
        schema := { items := [
          ("name", .flagged ⟨.text, { noStem? := some true, source? := some "FAST" }⟩),
          ("schema", .nested [("", .bare .unsigned), ("name", .flagged ⟨.bool, {}⟩)])] } }
    definition.command = .ok definition.words ∧
    Description.ofJson? (.arr [.str "name", .str "schema", .str "type", .str "JSON",
        .str "prefixes", .arr [.str "type", .str ""], .str "language", .str "german",
        .str "schema", .arr [
          .arr [.str "name", .str "TEXT", .str "NOSTEM", .str "FROM", .str "FAST"],
          .arr [.str "schema.", .str "U64", .str "FAST"],
          .arr [.str "schema.name", .str "BOOL"]]]) =
      some { name := "schema", storage := "json", prefixes := ["type", ""]
             language? := some "german"
             fields := { members :=
               [("name", .text), ("schema.", .unsigned), ("schema.name", .bool)] } } := by
  intro definition
  let flags : Leaf → List Json := fun leaf => ((leafWords leaf).drop 2).map .str
  have hcommand : definition.command = .ok definition.words := rfl
  obtain ⟨fields, hfields, hread⟩ := ofJson?_report hcommand flags
  obtain rfl : fields =
      { members := [("name", .text), ("schema.", .unsigned), ("schema.name", .bool)] } :=
    Record.ext hfields
  exact ⟨hcommand, hread⟩

end IndexDefinition

/-! ## The shapes of a reply -/

namespace Resp

open Description

theorem itemsToJson_eq_map (items : List Resp) : itemsToJson items = items.map toJson := by
  induction items with
  | nil => rfl
  | cons item rest ih => rw [itemsToJson, ih, List.map_cons]

theorem entriesToJson_eq_map (entries : List (Resp × Resp)) :
    entriesToJson entries =
      entries.map fun entry => (entry.1.toJson.plainText, entry.2.toJson) := by
  induction entries with
  | nil => rfl
  | cons entry rest ih => rw [entriesToJson, ih, List.map_cons]

theorem itemsToJson_inTurn (entries : List (Resp × Resp)) :
    itemsToJson (inTurn entries) =
      inTurn (entries.map fun entry => (entry.1.toJson, entry.2.toJson)) := by
  rw [itemsToJson_eq_map, inTurn, inTurn, List.map_flatMap, List.flatMap_map]
  rfl

/-- A map whose names are all different becomes an object with its entries as members. -/
theorem toJson_map_of_nodup {entries : List (Resp × Resp)}
    (h : (entries.map fun entry => entry.1.toJson.plainText).Nodup) :
    toJson (.map entries) = .obj (entriesToJson entries) := by
  have hdistinct : Members.Distinct (entriesToJson entries) := by
    simpa [Members.Distinct, Members.keys, entriesToJson_eq_map, Function.comp_def] using h
  rw [toJson, Members.ofPairs_of_distinct hdistinct]

/-- An entry of a list tells a field: its path and the word for its kind, and more after them. -/
inductive TellsField (field : String × String) : Resp → Prop where
  | mk {path kind : Resp} {others : List Resp} :
      path.toJson = .str field.1 → kind.toJson = .str field.2 →
        TellsField field (.array (path :: kind :: others))

/-- An entry of a map binds the path of a field to the word for its kind, or to an object that has
the word under `type`. -/
structure BindsField (field : String × String) (entry : Resp × Resp) : Prop where
  path : entry.1.toJson = .str field.1
  kind : entry.2.toJson = .str field.2 ∨ entry.2.toJson.member? "type" = some (.str field.2)

/-- A reply lists fields with the words for their kinds, known or not, in one of two shapes. -/
inductive ListsFields (fields : List (String × String)) : Resp → Prop where
  | array {items : List Resp} :
      List.Forall₂ TellsField fields items → ListsFields fields (.array items)
  | map {entries : List (Resp × Resp)} :
      List.Forall₂ BindsField fields entries → ListsFields fields (.map entries)

/-- Two entries of a description say the same: both stand for the same values, or both list the same
fields. -/
inductive SaysSame (entry other : Resp × Resp) : Prop where
  | values : entry.1.toJson = other.1.toJson → entry.2.toJson = other.2.toJson →
      SaysSame entry other
  | fields {fields : List (String × String)} :
      entry.1.toJson = .str "schema" → other.1.toJson = .str "schema" →
      (fields.map Prod.fst).Nodup → ListsFields fields entry.2 → ListsFields fields other.2 →
        SaysSame entry other

theorem SaysSame.name_eq {entry other : Resp × Resp} (h : SaysSame entry other) :
    entry.1.toJson = other.1.toJson := by
  cases h with
  | values hname _ => exact hname
  | fields hname hname' _ _ _ => rw [hname, hname']

/-- The field of a path and a word, if the word names a kind. -/
def fieldOfWord? (field : String × String) : Option (String × FieldKind) :=
  (Vocabulary.ofWord? field.2).map fun kind => (field.1, kind)

theorem fieldOfEntry?_of_tellsField {field : String × String} {item : Resp}
    (h : TellsField field item) : fieldOfEntry? item.toJson = fieldOfWord? field := by
  cases h with
  | mk hpath hkind =>
    rw [toJson, itemsToJson, itemsToJson, hpath, hkind]
    rfl

theorem fieldOfMember?_of_bindsField {field : String × String} {entry : Resp × Resp}
    (h : BindsField field entry) :
    fieldOfMember? (entry.1.toJson.plainText, entry.2.toJson) = fieldOfWord? field := by
  have hkind : kindOf? entry.2.toJson = Vocabulary.ofWord? field.2 := by
    rcases h.kind with hword | hmember
    · rw [hword]
      rfl
    · cases hobject : entry.2.toJson with
      | obj members =>
        rw [hobject, Json.member?] at hmember
        rw [kindOf?, hmember]
      | null | bool | num | str | arr => simp [hobject, Json.member?] at hmember
  rw [fieldOfMember?, hkind, h.path]
  rfl

/-- The fields that a reply lists are read alike from both shapes. -/
theorem readFields_of_listsFields {fields : List (String × String)} {reply : Resp}
    (hpaths : (fields.map Prod.fst).Nodup) (h : ListsFields fields reply) :
    readFields reply.toJson = Record.ofPairs (fields.filterMap fieldOfWord?) := by
  cases h with
  | array h =>
    rw [toJson, itemsToJson_eq_map, readFields, List.filterMap_map]
    apply congrArg Record.ofPairs
    apply Eq.symm
    exact filterMap_eq_of_forall₂ h fun _ _ _ htells => (fieldOfEntry?_of_tellsField htells).symm
  | @map entries h =>
    have hnames : entries.map (fun entry => entry.1.toJson.plainText) = fields.map Prod.fst :=
      (map_eq_of_forall₂ h fun _ _ _ hbinds => by rw [hbinds.path]; rfl).symm
    rw [toJson_map_of_nodup (hnames ▸ hpaths), readFields, entriesToJson_eq_map,
      List.filterMap_map]
    apply congrArg Record.ofPairs
    apply Eq.symm
    exact filterMap_eq_of_forall₂ h fun _ _ _ hbinds =>
      (fieldOfMember?_of_bindsField hbinds).symm

/-- An entry counts the same in every shape. -/
theorem withEntry_of_saysSame {entry other : Resp × Resp} (h : SaysSame entry other)
    (description : Description) :
    withEntry description (entry.1.toJson.plainText, entry.2.toJson) =
      withEntry description (other.1.toJson.plainText, other.2.toJson) := by
  cases h with
  | values hname hvalue => rw [hname, hvalue]
  | fields hname hname' hpaths hfields hfields' =>
    have hread : readFields entry.2.toJson = readFields other.2.toJson := by
      rw [readFields_of_listsFields hpaths hfields, readFields_of_listsFields hpaths hfields']
    rw [hname, hname']
    simp only [Json.plainText, withEntry, hread]

theorem foldl_withEntry_of_saysSame {entries others : List (Resp × Resp)}
    (h : List.Forall₂ SaysSame entries others) (description : Description) :
    (entriesToJson entries).foldl withEntry description =
      (entriesToJson others).foldl withEntry description := by
  induction h generalizing description with
  | nil => rfl
  | cons hfirst _ ih =>
    rw [entriesToJson, entriesToJson, List.foldl_cons, List.foldl_cons,
      withEntry_of_saysSame hfirst, ih]

/-! ## Maps and lists -/

theorem ofJson?_map {entries : List (Resp × Resp)} (hne : entries ≠ [])
    (hnames : (entries.map fun entry => entry.1.toJson.plainText).Nodup) :
    ofJson? (toJson (.map entries)) = some ((entriesToJson entries).foldl withEntry {}) := by
  have hmembers : entriesToJson entries ≠ [] := by simpa [entriesToJson_eq_map] using hne
  rw [toJson_map_of_nodup hnames, ofJson?_obj hmembers]

theorem ofJson?_array {entries : List (Resp × Resp)} (hne : entries ≠ []) :
    ofJson? (toJson (.array (inTurn entries))) =
      some ((entriesToJson entries).foldl withEntry {}) := by
  rw [toJson, itemsToJson_inTurn, ofJson?_inTurn (by simpa using hne), List.map_map,
    entriesToJson_eq_map]
  rfl

/-- Names that are all different make the same description whether they are bound to their values
in a map or listed with them in turn, and whether the fields among these values are listed in
entries or bound to their kinds. -/
theorem ofJson?_eq_of_saysSame {entries others : List (Resp × Resp)} (hne : entries ≠ [])
    (hnames : (entries.map fun entry => entry.1.toJson.plainText).Nodup)
    (hsame : List.Forall₂ SaysSame entries others) :
    ∃ description, ∀ reply ∈ [Resp.map entries, .array (inTurn entries), .map others,
      .array (inTurn others)], ofJson? reply.toJson = some description := by
  have hne' : others ≠ [] := by
    intro hnil
    subst hnil
    exact hne (List.forall₂_nil_right_iff.mp hsame)
  have hnames' : (others.map fun entry => entry.1.toJson.plainText).Nodup := by
    rwa [← map_eq_of_forall₂ hsame fun _ _ _ h => congrArg Json.plainText h.name_eq]
  refine ⟨(entriesToJson entries).foldl withEntry {}, ?_⟩
  intro reply hreply
  simp only [List.mem_cons, List.not_mem_nil, or_false] at hreply
  rcases hreply with rfl | rfl | rfl | rfl
  · exact ofJson?_map hne hnames
  · exact ofJson?_array hne
  · rw [ofJson?_map hne' hnames', foldl_withEntry_of_saysSame hsame]
  · rw [ofJson?_array hne', foldl_withEntry_of_saysSame hsame]

theorem ofJson?_eq_of_saysSame_fields :
    let listed := Resp.array [.array [.simple "a.b", .simple "TEXT", .simple "NOSTEM"],
      .array [.simple "x", .simple "NOPE"], .array [.simple "", .verbatim "U64", .nil]]
    let bound := Resp.map [
      (.simple "a.b", .map [(.simple "noStem", .bool true), (.simple "type", .simple "TEXT")]),
      (.simple "x", .simple "NOPE"), (.simple "", .simple "U64")]
    let entries : List (Resp × Resp) := [(.simple "schema", listed),
      (.simple "type", .simple "HASH"), (.simple "name", .int 5), (.simple "dataType", .nil)]
    let others : List (Resp × Resp) := [(.verbatim "schema", bound),
      (.bulk [116, 121, 112, 101], .simple "HASH"), (.simple "name", .int 5),
      (.simple "dataType", .nil)]
    (entries ≠ [] ∧ (entries.map fun entry => entry.1.toJson.plainText).Nodup ∧
      List.Forall₂ SaysSame entries others) ∧
    ∃ description, ∀ reply ∈ [Resp.map entries, .array (inTurn entries), .map others,
      .array (inTurn others)], ofJson? reply.toJson = some description := by
  intro listed bound entries others
  let fields := [("a.b", "TEXT"), ("x", "NOPE"), ("", "U64")]
  have hpaths : (fields.map Prod.fst).Nodup := by decide
  have hlisted : ListsFields fields listed :=
    .array (.cons (.mk rfl rfl) (.cons (.mk rfl rfl) (.cons (.mk rfl rfl) .nil)))
  have hbound : ListsFields fields bound :=
    .map (.cons ⟨rfl, .inr rfl⟩ (.cons ⟨rfl, .inl rfl⟩ (.cons ⟨rfl, .inl rfl⟩ .nil)))
  have hne : entries ≠ [] := List.cons_ne_nil _ _
  have hnames : (entries.map fun entry => entry.1.toJson.plainText).Nodup := by decide
  have hsame : List.Forall₂ SaysSame entries others :=
    .cons (.fields rfl rfl hpaths hlisted hbound) (.cons (.values rfl rfl)
      (.cons (.values rfl rfl) (.cons (.values rfl rfl) .nil)))
  exact ⟨⟨hne, hnames, hsame⟩, ofJson?_eq_of_saysSame hne hnames hsame⟩

end Resp

end DocumentSearch
