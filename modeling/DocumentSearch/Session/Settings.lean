import DocumentSearch.Command.Search

/-!
The settings of a client. Every member of the settings document may be left out, but none may be
null.
-/

namespace DocumentSearch

structure Settings where
  /-- Where the engine listens. -/
  address : String := "redis://127.0.0.1:6379"
  dialect : Dialect := .current
  /-- Whether filters are held against the schema, where it is known, before they are sent. -/
  validateFilters : Bool := true
deriving DecidableEq

namespace Settings

/-- Takes one member of a settings document into account. -/
def readMember (settings : Settings) (name : String) (value : Json) :
    Except Json.Mismatch Settings :=
  match name with
  | "redis_url" => (Json.readText value).map fun address => { settings with address }
  | "query_dialect" => (Json.readWord value).map fun dialect => { settings with dialect }
  | "validate_filters" =>
    (Json.readBool value).map fun validateFilters => { settings with validateFilters }
  | _ => .ok settings

def memberNames : List String := ["redis_url", "query_dialect", "validate_filters"]

/-- The settings that a document holds. -/
def ofJson (document : Json) : Except Json.Mismatch Settings :=
  Json.readRecord "SearchClientConfig" memberNames {} readMember document

end Settings

end DocumentSearch
