import DocumentSearch.Json.Text
import DocumentSearch.Text.Utf8

/-!
Replies of the RESP wire protocol and the JSON values that they stand for. Several spellings stand
for the same value: a text may come as bytes, as a line or as a verbatim text, and facts on the
side add nothing.
-/

namespace DocumentSearch

/-- A reply of the wire protocol. -/
inductive Resp where
  | nil
  /-- The status that says a command was carried out. -/
  | okay
  | int (value : Int)
  /-- A text by its bytes. -/
  | bulk (bytes : List UInt8)
  | simple (text : String)
  | array (items : List Resp)
  | set (items : List Resp)
  | map (entries : List (Resp × Resp))
  | double (value : Binary64)
  | bool (value : Bool)
  | verbatim (text : String)
  /-- A reply with facts about it on the side. -/
  | annotated (reply : Resp) (facts : List (Resp × Resp))
  /-- A whole number of any size. -/
  | big (value : Int)
  | error (code : String) (detail? : Option String)
  /-- News that answer no command. -/
  | push (items : List Resp)

namespace Resp

/-- The text of an error: its code, and its detail after a space. -/
def errorText (code : String) (detail? : Option String) : String :=
  match detail? with
  | some detail => code ++ " " ++ detail
  | none => code

mutual

/-- The JSON value that a reply stands for. A key that is no text is named by its compact text. -/
def toJson : Resp → Json
  | .nil => .null
  | .okay => .str "OK"
  | .int n => .int n
  | .bulk bytes => .str (Text.Utf8.decode bytes)
  | .simple s => .str s
  | .array items => .arr (itemsToJson items)
  | .set items => .arr (itemsToJson items)
  | .map entries => .obj (Members.ofPairs (entriesToJson entries))
  | .double x => .ofBinary64 x
  | .bool b => .bool b
  | .verbatim s => .str s
  | .annotated reply _ => toJson reply
  | .big n => .str (toString n)
  | .error code detail? => .str (errorText code detail?)
  | .push _ => .null

def itemsToJson : List Resp → List Json
  | [] => []
  | item :: rest => toJson item :: itemsToJson rest

def entriesToJson : List (Resp × Resp) → List (String × Json)
  | [] => []
  | (key, value) :: rest => ((toJson key).plainText, toJson value) :: entriesToJson rest

end

mutual

/-- The first error inside a reply: items come in order, the key of an entry before its value, and
an annotated reply before the facts about it. -/
def firstError? : Resp → Option (String × Option String)
  | .error code detail? => some (code, detail?)
  | .array items | .set items | .push items => firstErrorIn? items
  | .map entries => firstErrorAmong? entries
  | .annotated reply facts => (firstError? reply).or (firstErrorAmong? facts)
  | .nil | .okay | .int _ | .bulk _ | .simple _ | .double _ | .bool _ | .verbatim _ | .big _ => none

def firstErrorIn? : List Resp → Option (String × Option String)
  | [] => none
  | item :: rest => (firstError? item).or (firstErrorIn? rest)

def firstErrorAmong? : List (Resp × Resp) → Option (String × Option String)
  | [] => none
  | (key, value) :: rest =>
    ((firstError? key).or (firstError? value)).or (firstErrorAmong? rest)

end

end Resp

end DocumentSearch
