import DocumentSearch.Schema.Basic

/-!
The JSON form of a schema. A bare field is its kind's word, a field with flags an object with the
member `type`, and a nested schema an object of its own.

An object below the root is a field exactly when its `type` is a word for a kind, and a nested
schema otherwise; the root is always a schema. Reading a field with flags gives back what was
written (`FieldSpec.ofJson_toJson`).
-/

namespace DocumentSearch

namespace Flags

def flagMember (name : String) (flag? : Option Bool) : Members Json :=
  flag?.toList.map fun flag => (name, .bool flag)

/-- The members that the flags are written as, those left out aside. -/
def members (flags : Flags) : Members Json :=
  flagMember "fast" flags.fast? ++ flagMember "noTokenize" flags.noTokenize?
    ++ flagMember "noStem" flags.noStem?
    ++ flags.source?.toList.map fun source => ("from", .str source)

end Flags

namespace FieldSpec

def members (spec : FieldSpec) : Members Json :=
  ("type", .str spec.kind.token) :: spec.flags.members

def toJson (spec : FieldSpec) : Json := .obj spec.members

/-- Takes one member of a field's document into account; unknown ones count for nothing. -/
def readMember (read : Option FieldKind × Flags) (name : String) (value : Json) :
    Except Json.Mismatch (Option FieldKind × Flags) :=
  let (kind?, flags) := read
  match name with
  | "type" => (Json.readWord value).map fun kind => (some kind, flags)
  | "fast" => (Json.readOptional Json.readBool value).map fun flag? =>
    (kind?, { flags with fast? := flag? })
  | "noTokenize" => (Json.readOptional Json.readBool value).map fun flag? =>
    (kind?, { flags with noTokenize? := flag? })
  | "noStem" => (Json.readOptional Json.readBool value).map fun flag? =>
    (kind?, { flags with noStem? := flag? })
  | "from" => (Json.readOptional Json.readText value).map fun source? =>
    (kind?, { flags with source? := source? })
  | _ => .ok read

def memberNames : List String := ["type", "fast", "noTokenize", "noStem", "from"]

/-- What is wrong with a document that says no kind. -/
def kindMissing : Json → Json.Mismatch
  | .arr items => .wrongLength items.length "struct DetailedField with 5 elements"
  | _ => .missing "type"

def ofJson (document : Json) : Except Json.Mismatch FieldSpec :=
  match Json.readRecord "DetailedField" memberNames (none, {}) readMember document with
  | .ok (some kind, flags) => .ok ⟨kind, flags⟩
  | .ok (none, _) => .error (kindMissing document)
  | .error mismatch => .error mismatch

@[simp] theorem readWord_token (kind : FieldKind) :
    Json.readWord (.str kind.token) = .ok kind := Json.readWord_word kind

/-- Reading a field with flags gives back what was written, flags that are set to false included. -/
theorem ofJson_toJson (spec : FieldSpec) : ofJson spec.toJson = .ok spec := by
  obtain ⟨kind, fast?, noTokenize?, noStem?, source?⟩ := spec
  cases fast? <;> cases noTokenize? <;> cases noStem? <;> cases source? <;>
    simp [ofJson, toJson, members, Flags.members, Flags.flagMember, Json.readRecord,
      Json.readMembers, readMember, Json.readOptional, Json.readBool, Json.readText, Except.map]

end FieldSpec

namespace Schema

def readKind (word : String) : Except Fault FieldKind :=
  match Vocabulary.ofWord? word with
  | some kind => .ok kind
  | none => .error (Flaw.unknownKind word).fault

/-- Whether the members of an object say what kind of field it is. -/
def namesKind (members : List (String × Json)) : Bool :=
  match Members.lookup? members "type" with
  | some (.str word) => (Vocabulary.ofWord? word : Option FieldKind).isSome
  | _ => false

def readField (document : Json) : Except Fault FieldSpec :=
  match FieldSpec.ofJson document with
  | .ok spec => .ok spec
  | .error mismatch => .error (Flaw.badField mismatch).fault

mutual

/-- The field or nested schema that a document describes. -/
def itemOfJson : Json → Except Fault SchemaItem
  | .str word => (readKind word).map .bare
  | .obj members =>
    if namesKind members then (readField (.obj members)).map .flagged
    else (itemsOfJson members).map fun pairs => .nested (ofPairs pairs)
  | document => .error (Flaw.notItem document).fault

/-- The keys and items that the members of an object describe. Each key is looked at before what it
is bound to. -/
def itemsOfJson : List (String × Json) → Except Fault (List (String × SchemaItem))
  | [] => .ok []
  | (key, document) :: rest =>
    if Path.dotted key then .error (Flaw.dottedKey key).fault
    else match itemOfJson document with
      | .error fault => .error fault
      | .ok item => (itemsOfJson rest).map ((key, item) :: ·)

end

def ofJson : Json → Except Fault Schema
  | .obj members => (itemsOfJson members).map ofPairs
  | document => .error (Flaw.notSchema document).fault

end Schema

namespace SchemaTree

mutual

/-- The JSON form of a field or nested schema. -/
def toJson : SchemaTree → Json
  | .bare kind => .str kind.token
  | .flagged spec => spec.toJson
  | .nested items => .obj (itemsToJson items)

def itemsToJson : List (String × SchemaTree) → List (String × Json)
  | [] => []
  | (key, tree) :: rest => (key, toJson tree) :: itemsToJson rest

end

end SchemaTree

def SchemaItem.toJson (item : SchemaItem) : Json := item.tree.toJson

def Schema.toJson (schema : Schema) : Json := schema.tree.toJson

end DocumentSearch
