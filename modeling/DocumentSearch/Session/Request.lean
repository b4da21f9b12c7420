import DocumentSearch.Command.Definition
import DocumentSearch.Filter.Validation
import DocumentSearch.Reply.Alias
import DocumentSearch.Reply.Count
import DocumentSearch.Reply.Description
import DocumentSearch.Reply.Hit
import DocumentSearch.Session.Basic

/-!
What a client can be asked for: each request is one command and one way to read the reply. A
request whose command cannot be made changes nothing, and every other request sends its command
and takes one reply.
-/

namespace DocumentSearch

/-- An index as a client knows it, with or without its schema. -/
structure Handle where
  name : String
  schema? : Option Schema
deriving DecidableEq

inductive Request where
  | create (definition : IndexDefinition)
  | query (index : Handle) (filter? : Option Filter) (options : SearchOptions)
  | count (index : Handle) (filter? : Option Filter)
  | describe (index : Handle)
  | commit (index : Handle)
  | drop (index : Handle)
  | waitIndexing (index : Handle)
  | addAlias (index : String) (name : String)
  | deleteAlias (name : String)
  | listAliases
deriving DecidableEq

inductive Answer where
  | handle (index : Handle)
  | hits (found : List Hit)
  | count (found? : Option Int)
  | description (found? : Option Description)
  | done
  | flag (value : Bool)
  | status (value : Int)
  | aliases (bound : Record String)
deriving DecidableEq

namespace Handle

/-- Holds a filter against the schema, where there is a filter, a schema is known and the settings
ask for it. -/
def validate (index : Handle) (settings : Settings) (filter? : Option Filter) :
    Except Fault Unit :=
  match filter?, index.schema? with
  | some filter, some schema =>
    if settings.validateFilters then filter.validate schema.leaves else .ok ()
  | _, _ => .ok ()

def searchCommand (index : Handle) (settings : Settings) (purpose : Purpose)
    (filter? : Option Filter) (options : SearchOptions) : Except Fault Command :=
  match index.validate settings filter? with
  | .error fault => .error fault
  | .ok () => DocumentSearch.searchCommand purpose index.name filter? options settings.dialect

end Handle

namespace Request

def command (settings : Settings) : Request → Except Fault Command
  | .create definition => definition.command
  | .query index filter? options => index.searchCommand settings .hits filter? options
  | .count index filter? => index.searchCommand settings .count filter? {}
  | .describe index => .ok [Verb.describe.token, index.name]
  | .commit index => .ok [Verb.commit.token, index.name]
  | .drop index => .ok [Verb.drop.token, index.name]
  | .waitIndexing index => .ok [Verb.waitIndexing.token, index.name]
  | .addAlias index name => .ok [Verb.addAlias.token, name, index]
  | .deleteAlias name => .ok [Verb.deleteAlias.token, name]
  | .listAliases => .ok [Verb.listAliases.token]

/-- The answer that a reply to the request is. -/
def read (reply : Json) : Request → Answer
  | .create definition => .handle ⟨definition.name, some definition.schema⟩
  | .query _ _ _ => .hits (Hit.listOfJson reply)
  | .count _ _ => .count (Reply.count? reply)
  | .describe _ => .description (Description.ofJson? reply)
  | .commit _ => .done
  | .drop _ | .waitIndexing _ | .deleteAlias _ => .flag (Reply.succeeded reply)
  | .addAlias _ _ => .status (Reply.status reply)
  | .listAliases => .aliases (Reply.aliases reply)

end Request

namespace Session

variable {ρ : Type}

/-- Notes the hits of an answer that has some. -/
def noteHits (session : Session ρ) : Answer → Session ρ
  | .hits found => { session with metrics := session.metrics.recordHits found.length }
  | _ => session

def perform [Wire ρ] (session : Session ρ) (request : Request) :
    Except Fault Answer × Session ρ :=
  match request.command session.settings with
  | .error fault => (.error fault, session)
  | .ok command =>
    match session.dispatch command with
    | (.error fault, session) => (.error fault, session)
    | (.ok reply, session) =>
      let answer := request.read reply
      (.ok answer, session.noteHits answer)

end Session

end DocumentSearch
