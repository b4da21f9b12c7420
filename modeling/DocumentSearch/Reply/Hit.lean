import DocumentSearch.Binary64.Text
import DocumentSearch.Json.Text
import DocumentSearch.Path

/-!
Search hits. A reply lists hits as `[key, score, [[name, value], …]]`, of which score and fields
may be missing. The field names are paths into the document, and the document can be rebuilt from
them.

Reading never fails: what has another shape is passed over.
-/

namespace DocumentSearch

/-- A document that was found. -/
structure Hit where
  key : String
  /-- The relevance, as the engine wrote it. -/
  score : String
  /-- The values that came with the hit, none where the reply has no list of fields. -/
  fields? : Option (Record Json)
deriving DecidableEq

namespace Hit

/-- The field that one entry of a field list is: a name and a value, more being passed over. -/
def fieldOfJson? : Json → Option (String × Json)
  | .arr (name :: value :: _) => some (name.plainText, value)
  | _ => none

/-- The fields of a field list; a later value of a name wins, at the place of the first. -/
def fieldsOfJson : Json → Record Json
  | .arr entries => Record.ofPairs (entries.filterMap fieldOfJson?)
  | _ => {}

/-- The hit that one entry of a reply is. -/
def ofJson? : Json → Option Hit
  | .arr [key] => some ⟨key.plainText, "", none⟩
  | .arr [key, score] => some ⟨key.plainText, score.plainText, none⟩
  | .arr (key :: score :: fields :: _) =>
    some ⟨key.plainText, score.plainText, some (fieldsOfJson fields)⟩
  | _ => none

def listOfJson : Json → List Hit
  | .arr entries => entries.filterMap ofJson?
  | _ => []

def toJson (hit : Hit) : Json :=
  .obj ([("key", .str hit.key), ("score", .str hit.score)]
    ++ hit.fields?.toList.map fun fields => ("fields", .obj fields.members))

/-- The relevance as a number, where it reads as one. -/
def scoreValue? (hit : Hit) : Option Binary64 := Binary64.ofText? hit.score.toList

/-- The members of an object; anything else is taken for an empty one. -/
def membersOf : Option Json → Members Json
  | some (.obj members) => members
  | _ => []

/-- Puts a value where a path leads, making objects on the way; what stands in the way gives place
to an object. -/
def place (value : Json) : List String → Members Json → Members Json
  | [], document => document
  | [key], document => document.put key value
  | key :: next :: rest, document =>
    document.put key (.obj (place value (next :: rest) (membersOf (document.lookup? key))))

/-- The name of a field that holds a whole document. -/
def wholeDocument : String := "$"

/-- The object that fields make, each in the place that its path names. -/
def rebuild (fields : Members Json) : Members Json :=
  fields.foldl (fun document field => place field.2 (Path.split field.1) document) []

/-- The document that the fields of a hit make. What they put under `$` at the top stands for the
whole of it. -/
def document? (hit : Hit) : Option Json :=
  hit.fields?.map fun fields =>
    let document := rebuild fields.members
    (document.lookup? wholeDocument).getD (.obj document)

end Hit

end DocumentSearch
