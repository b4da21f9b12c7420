import DocumentSearch.Command.Verb
import DocumentSearch.Schema.Leaf

/-!
Index definitions and the command that creates an index:

`SEARCH.CREATE name [SKIPINITIALSCAN] [EXISTSOK] ON storage PREFIX n prefix… [LANGUAGE language]
SCHEMA (path KIND [FAST] [NOTOKENIZE] [NOSTEM] [FROM source])…`
-/

namespace DocumentSearch

/-- How the indexed keys are stored. -/
inductive Storage where
  | hash
  | string
  | json
deriving DecidableEq

namespace Storage

/-- The name of a layout in documents. -/
def name : Storage → String
  | .hash => "hash"
  | .string => "string"
  | .json => "json"

/-- The engine's word for a layout. -/
def token : Storage → String
  | .hash => "HASH"
  | .string => "STRING"
  | .json => "JSON"

instance : Vocabulary Storage where
  all := [.hash, .string, .json]
  word := name

/-- The layout of a name, in capital or small ASCII letters. -/
def read (name : String) : Except Fault Storage :=
  match Vocabulary.ofWord? name.toLower with
  | some storage => .ok storage
  | none => .error (.unknownStorage name)

end Storage

/-- The language that words are reduced to their stems by. -/
inductive Language where
  | english | arabic | danish | dutch | finnish | french | german | greek | hungarian | italian
  | norwegian | portuguese | romanian | russian | spanish | swedish | tamil | turkish
deriving DecidableEq

namespace Language

def name : Language → String
  | .english => "english"
  | .arabic => "arabic"
  | .danish => "danish"
  | .dutch => "dutch"
  | .finnish => "finnish"
  | .french => "french"
  | .german => "german"
  | .greek => "greek"
  | .hungarian => "hungarian"
  | .italian => "italian"
  | .norwegian => "norwegian"
  | .portuguese => "portuguese"
  | .romanian => "romanian"
  | .russian => "russian"
  | .spanish => "spanish"
  | .swedish => "swedish"
  | .tamil => "tamil"
  | .turkish => "turkish"

instance : Vocabulary Language where
  all := [.english, .arabic, .danish, .dutch, .finnish, .french, .german, .greek, .hungarian,
    .italian, .norwegian, .portuguese, .romanian, .russian, .spanish, .swedish, .tamil, .turkish]
  word := name

/-- The language of a name, in capital or small ASCII letters. -/
def read (name : String) : Except Fault Language :=
  match Vocabulary.ofWord? name.toLower with
  | some language => .ok language
  | none => .error (.unknownLanguage name)

end Language

structure IndexDefinition where
  name : String
  schema : Schema
  storage : Storage := .hash
  /-- The keys that the index covers are those that start so. -/
  prefixes : List String := []
  language? : Option Language := none
  /-- Keys that are there already are not indexed. -/
  skipInitialScan : Bool := false
  /-- An index of this name that is there already is no failure. -/
  existsOk : Bool := false
deriving DecidableEq

namespace IndexDefinition

open Command

/-- Whether a field is sent as fast: numbers always, others where the schema asks for it. -/
def sentFast (spec : FieldSpec) : Bool := spec.flags.fast? == some true || spec.kind.isNumeric

/-- The words that tell the engine one field. -/
def leafWords (leaf : Leaf) : List String :=
  [leaf.path, leaf.spec.kind.token]
    ++ wordIf (sentFast leaf.spec) "FAST"
    ++ wordIf (leaf.spec.flags.noTokenize? == some true) "NOTOKENIZE"
    ++ wordIf (leaf.spec.flags.noStem? == some true) "NOSTEM"
    ++ clause "FROM" leaf.spec.flags.source?

def words (definition : IndexDefinition) : Command :=
  [Verb.create.token, definition.name]
    ++ wordIf definition.skipInitialScan "SKIPINITIALSCAN"
    ++ wordIf definition.existsOk "EXISTSOK"
    ++ ["ON", definition.storage.token]
    ++ ["PREFIX"] ++ counted definition.prefixes
    ++ clause "LANGUAGE" (definition.language?.map Language.name)
    ++ ["SCHEMA"] ++ definition.schema.leaves.flatMap leafWords

/-- The command that creates the index. A key with a dot is refused. -/
def command (definition : IndexDefinition) : Except Fault Command :=
  match definition.schema.checkKeys with
  | .ok () => .ok definition.words
  | .error fault => .error fault

theorem command_eq_ok_iff {definition : IndexDefinition} {command : Command} :
    definition.command = .ok command ↔
      definition.schema.checkKeys = .ok () ∧ definition.words = command := by
  rw [IndexDefinition.command]
  cases definition.schema.checkKeys <;> simp

theorem command_eq_error_iff {definition : IndexDefinition} {fault : Fault} :
    definition.command = .error fault ↔ definition.schema.checkKeys = .error fault := by
  rw [command]
  cases definition.schema.checkKeys <;> simp

end IndexDefinition

end DocumentSearch
