import DocumentSearch.Schema.Basic

/-!
Putting fields together step by step. A draft starts with a kind and takes options one at a time;
when it is finished, it is a bare kind if no option was given, and a field with flags otherwise.
-/

namespace DocumentSearch

/-- An option that a field is drafted with. -/
inductive FieldOption where
  | fast
  | noTokenize
  | noStem
  | source (path : String)
deriving DecidableEq

namespace FieldSpec

/-- A field that nothing is said about yet. -/
def start (kind : FieldKind) : FieldSpec := { kind }

/-- Adds an option. Flags are only ever raised, and of several sources the last counts. -/
def withOption (spec : FieldSpec) : FieldOption → FieldSpec
  | .fast => { spec with flags := { spec.flags with fast? := some true } }
  | .noTokenize => { spec with flags := { spec.flags with noTokenize? := some true } }
  | .noStem => { spec with flags := { spec.flags with noStem? := some true } }
  | .source path => { spec with flags := { spec.flags with source? := some path } }

def withOptions (spec : FieldSpec) (options : List FieldOption) : FieldSpec :=
  options.foldl withOption spec

/-- The item that a draft becomes. -/
def finish (spec : FieldSpec) : SchemaItem :=
  if spec.flags.any then .flagged spec else .bare spec.kind

end FieldSpec

end DocumentSearch
