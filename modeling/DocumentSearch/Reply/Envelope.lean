import DocumentSearch.Fault

/-!
Replies in an envelope: an object with a result or an error. An error counts even beside a result,
and a reply with neither is null.
-/

namespace DocumentSearch

/-- A reply with its result or its error. -/
structure Envelope where
  result? : Option Json := none
  error? : Option String := none
deriving DecidableEq

namespace Envelope

def ok (result : Json) : Envelope := { result? := some result }

def failed (text : String) : Envelope := { error? := some text }

/-- What the reply comes to. -/
def outcome (reply : Envelope) : Except Fault Json :=
  match reply.error? with
  | some text => .error (.server text)
  | none => .ok (reply.result?.getD .null)

/-- Takes one member of a document into account. -/
def readMember (reply : Envelope) (name : String) (value : Json) :
    Except Json.Mismatch Envelope :=
  match name with
  | "result" => (Json.readOptional .ok value).map fun result? => { reply with result? }
  | "error" => (Json.readOptional Json.readText value).map fun error? => { reply with error? }
  | _ => .ok reply

def ofJson (document : Json) : Except Json.Mismatch Envelope :=
  Json.readRecord "RawReply" ["result", "error"] {} readMember document

def toJson (reply : Envelope) : Json :=
  .obj (reply.result?.toList.map (("result", ·))
    ++ reply.error?.toList.map fun text => ("error", .str text))

end Envelope

end DocumentSearch
