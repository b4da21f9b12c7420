import DocumentSearch.Schema.Document
import DocumentSearch.Text.Lowercase

/-!
What the engine says about an index: a list of names and values in turn, or an object. Names that
are not known are passed over, and of several values for one thing the last counts.
-/

namespace DocumentSearch

/-- What the engine says about an index. Of its fields only the kinds are kept. -/
structure Description where
  name : String := ""
  /-- The storage layout, in small letters. -/
  storage : String := ""
  prefixes : List String := []
  language? : Option String := none
  fields : Record FieldKind := {}
deriving DecidableEq

namespace Description

/-- The pairs that a list of names and values in turn makes; a name at the end has no value and
counts for nothing. -/
def pairs : List Json → List (String × Json)
  | name :: value :: rest => (name.plainText, value) :: pairs rest
  | _ => []

/-- The names and values of a reply, none if it is empty or has another shape. -/
def entries? : Json → Option (List (String × Json))
  | .arr (item :: items) => some (pairs (item :: items))
  | .obj (member :: members) => some (member :: members)
  | _ => none

/-- The key prefixes that a value lists; a single text is one of them. -/
def readPrefixes : Json → List String
  | .arr items => items.map Json.plainText
  | .str s => [s]
  | _ => []

/-- The kind that a value names, as a word or as the member `type` of an object. -/
def kindOf? : Json → Option FieldKind
  | .str word => Vocabulary.ofWord? word
  | .obj members =>
    match Members.lookup? members "type" with
    | some (.str word) => Vocabulary.ofWord? word
    | _ => none
  | _ => none

/-- The field that an entry `[path, KIND, …]` is. -/
def fieldOfEntry? : Json → Option (String × FieldKind)
  | .arr (path :: .str word :: _) => (Vocabulary.ofWord? word).map (path.plainText, ·)
  | _ => none

/-- The field that a member, path and kind, is. -/
def fieldOfMember? (member : String × Json) : Option (String × FieldKind) :=
  (kindOf? member.2).map (member.1, ·)

/-- The fields that a value lists, those of unknown kinds left out. -/
def readFields : Json → Record FieldKind
  | .arr entries => Record.ofPairs (entries.filterMap fieldOfEntry?)
  | .obj members => Record.ofPairs (members.filterMap fieldOfMember?)
  | _ => {}

/-- Takes one name with its value into account. -/
def withEntry (description : Description) (entry : String × Json) : Description :=
  match entry with
  | ("name", value) | ("indexName", value) => { description with name := value.plainText }
  | ("type", value) | ("dataType", value) =>
    { description with storage := Text.lowercase value.plainText }
  | ("prefixes", value) => { description with prefixes := readPrefixes value }
  | ("language", value) => { description with language? := value.text? }
  | ("schema", value) => { description with fields := readFields value }
  | _ => description

/-- The description that a reply is, none if the reply is empty. -/
def ofJson? (reply : Json) : Option Description :=
  (entries? reply).map fun entries => entries.foldl withEntry {}

def toJson (description : Description) : Json :=
  .obj ([("indexName", .str description.name), ("dataType", .str description.storage),
      ("prefixes", .arr (description.prefixes.map .str))]
    ++ description.language?.toList.map (fun language => ("language", .str language))
    ++ [("schema",
      .obj (description.fields.members.map fun field => (field.1, .str field.2.token)))])

end Description

end DocumentSearch
