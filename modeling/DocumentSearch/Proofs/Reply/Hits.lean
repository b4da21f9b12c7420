import DocumentSearch.Proofs.Members
import DocumentSearch.Reply.Hit

/-! Lists of hits, read back. Every list of hits has a reply that is read as that list, an entry is
read as if it stood alone, and entries of another shape are passed over. Of the fields of a hit, a
name that comes again keeps its first place and has its last value. -/

namespace DocumentSearch.Hit

/-! ## The reply for hits -/

def reportFields (fields : Record Json) : Json :=
  .arr (fields.members.map fun field => .arr [.str field.1, field.2])

/-- What the engine replies for one hit: key and score, and after them the fields if it tells them.
-/
def report (hit : Hit) : Json :=
  .arr ([.str hit.key, .str hit.score] ++ hit.fields?.toList.map reportFields)

theorem fieldsOfJson_reportFields (fields : Record Json) :
    fieldsOfJson (reportFields fields) = fields := by
  have hpairs : (fields.members.map fun field => Json.arr [.str field.1, field.2]).filterMap
      fieldOfJson? = fields.members := by
    rw [List.filterMap_map]
    exact List.filterMap_some
  rw [reportFields, fieldsOfJson, hpairs, Record.ofPairs_members]

theorem ofJson?_reported (hit : Hit) : ofJson? hit.report = some hit := by
  obtain ⟨key, score, fields?⟩ := hit
  cases fields? with
  | none => rfl
  | some fields =>
    simp only [report, Option.toList_some, List.map_cons, List.map_nil, List.cons_append,
      List.nil_append, ofJson?, fieldsOfJson_reportFields fields]
    rfl

theorem ofJson?_eq_none_iff {entry : Json} :
    ofJson? entry = none ↔ ∀ first rest, entry ≠ .arr (first :: rest) := by
  constructor
  · rintro h first rest rfl
    rcases rest with _ | ⟨score, _ | ⟨fields, more⟩⟩ <;> simp [ofJson?] at h
  · intro h
    cases entry with
    | arr items =>
      cases items with
      | nil => rfl
      | cons first rest => exact absurd rfl (h first rest)
    | null | bool | num | str | obj => rfl

/-! ## The fields of a hit -/

/-- The entries of a field list, of which there are none where the list is missing. -/
def itemsOf : Json → List Json
  | .arr items => items
  | _ => []

/-- The name in an entry that has a value beside it. -/
def entryName? : Json → Option String
  | .arr (name :: _ :: _) => some name.plainText
  | _ => none

theorem members_fieldsOfJson (list : Json) :
    (fieldsOfJson list).members = Members.ofPairs ((itemsOf list).filterMap fieldOfJson?) := by
  cases list <;> rfl

theorem fieldOfJson?_eq_some_iff {entry : Json} {name : String} {value : Json} :
    fieldOfJson? entry = some (name, value) ↔
      ∃ first rest, entry = .arr (first :: value :: rest) ∧ first.plainText = name := by
  constructor
  · intro h
    rw [fieldOfJson?.eq_def] at h
    split at h
    · next first own rest =>
      obtain ⟨rfl, rfl⟩ : first.plainText = name ∧ own = value := by simpa using h
      exact ⟨first, rest, rfl, rfl⟩
    · contradiction
  · rintro ⟨first, rest, rfl, rfl⟩
    rfl

theorem map_fst_fieldOfJson? (entry : Json) :
    (fieldOfJson? entry).map Prod.fst = entryName? entry := by
  cases entry with
  | arr items => rcases items with _ | ⟨name, _ | ⟨value, rest⟩⟩ <;> rfl
  | null | bool | num | str | obj => rfl

theorem keys_fieldsOfJson (list : Json) :
    Members.keys (fieldsOfJson list).members = ((itemsOf list).filterMap entryName?).eraseDups := by
  have hnames : Members.keys ((itemsOf list).filterMap fieldOfJson?) =
      (itemsOf list).filterMap entryName? := by
    rw [Members.keys, List.map_filterMap]
    exact List.filterMap_congr fun entry _ => map_fst_fieldOfJson? entry
  rw [members_fieldsOfJson, Members.keys_ofPairs, hnames]

theorem mem_fieldsOfJson_iff {list : Json} {name : String} {value : Json} :
    (name, value) ∈ (fieldsOfJson list).members ↔
      ∃ before after first rest,
        itemsOf list = before ++ .arr (first :: value :: rest) :: after ∧ first.plainText = name ∧
          ∀ later ∈ after, entryName? later ≠ some name := by
  rw [members_fieldsOfJson, Members.mem_ofPairs_filterMap_iff]
  simp only [map_fst_fieldOfJson?, fieldOfJson?_eq_some_iff]
  constructor
  · rintro ⟨before, _, after, hitems, ⟨first, rest, rfl, hname⟩, hlast⟩
    exact ⟨before, after, first, rest, hitems, hname, hlast⟩
  · rintro ⟨before, after, first, rest, hitems, hname, hlast⟩
    exact ⟨before, _, after, hitems, ⟨first, rest, rfl, hname⟩, hlast⟩

/-! ## Replies -/

theorem listOfJson_append (entries more : List Json) :
    listOfJson (.arr (entries ++ more)) = listOfJson (.arr entries) ++ listOfJson (.arr more) :=
  List.filterMap_append

/-- The reply for hits is read as those hits. Replies one after the other are read as the hits of
the one and then of the other, and entries that are no lists or have nothing in them are passed
over. Of the fields of a hit each name is told once, at the place of the first entry that gives it
and with the value of the last. -/
theorem listOfJson_reported :
    (∀ hits : List Hit, listOfJson (.arr (hits.map report)) = hits) ∧
    (∀ entries more : List Json, listOfJson (.arr (entries ++ more)) =
      listOfJson (.arr entries) ++ listOfJson (.arr more)) ∧
    (∀ before inserted after : List Json,
      (∀ entry ∈ inserted, ∀ first rest, entry ≠ .arr (first :: rest)) →
      listOfJson (.arr (before ++ inserted ++ after)) = listOfJson (.arr (before ++ after))) ∧
    ∀ (key score list : Json) (more : List Json), ∃ fields : Record Json,
      listOfJson (.arr [.arr (key :: score :: list :: more)]) =
        [⟨key.plainText, score.plainText, some fields⟩] ∧
      Members.keys fields.members = ((itemsOf list).filterMap entryName?).eraseDups ∧
      ∀ name value, (name, value) ∈ fields.members ↔
        ∃ before after first rest,
          itemsOf list = before ++ .arr (first :: value :: rest) :: after ∧
            first.plainText = name ∧ ∀ later ∈ after, entryName? later ≠ some name := by
  refine ⟨?_, listOfJson_append, ?_, ?_⟩
  · intro hits
    rw [listOfJson, List.filterMap_map]
    exact (List.filterMap_congr fun hit _ => ofJson?_reported hit).trans List.filterMap_some
  · intro before inserted after hinserted
    have hnone : listOfJson (.arr inserted) = [] := by
      apply List.filterMap_eq_nil_iff.mpr
      intro entry hmem
      exact ofJson?_eq_none_iff.mpr (hinserted entry hmem)
    rw [listOfJson_append, listOfJson_append, listOfJson_append, hnone, List.append_nil]
  · intro key score list more
    exact ⟨fieldsOfJson list, rfl, keys_fieldsOfJson list, fun name value => mem_fieldsOfJson_iff⟩

theorem listOfJson_reported_mixed :
    let hits : List Hit := [⟨"", "x", none⟩,
      ⟨"k", "1", some { members := [("a.b", .null), ("", .arr [])] }⟩]
    let inserted : List Json := [.null, .arr [], .obj [("k", .str "1")]]
    let list : Json := .arr [.arr [.str "a", .null], .str "a", .arr [.str "b"],
      .arr [.bool true, .str "x", .null], .arr [.str "a", .arr []], .arr [.str "true", .null]]
    (∀ entry ∈ inserted, ∀ first rest, entry ≠ .arr (first :: rest)) ∧
    listOfJson (.arr (hits.map report)) = hits ∧
    listOfJson (.arr ([.arr [.null]] ++ inserted ++ hits.map report)) =
      listOfJson (.arr ([.arr [.null]] ++ hits.map report)) ∧
    ∃ fields : Record Json, listOfJson (.arr [.arr [.bool false, .null, list]]) =
        [⟨"false", "null", some fields⟩] ∧
      Members.keys fields.members = ["a", "true"] ∧ ("a", .arr []) ∈ fields.members := by
  intro hits inserted list
  have hinserted : ∀ entry ∈ inserted, ∀ first rest, entry ≠ .arr (first :: rest) := by
    simp [inserted]
  obtain ⟨hread, -, hpassed, htold⟩ := listOfJson_reported
  obtain ⟨fields, hlist, hkeys, hmem⟩ := htold (.bool false) .null list []
  refine ⟨hinserted, hread hits,
    hpassed [.arr [.null]] inserted (hits.map report) hinserted, fields, hlist, ?_, ?_⟩
  · rw [hkeys]
    decide
  · apply (hmem "a" (.arr [])).mpr
    exact ⟨(itemsOf list).take 4, (itemsOf list).drop 5, .str "a", [], rfl, rfl, by decide⟩

end DocumentSearch.Hit
