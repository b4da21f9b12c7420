import DocumentSearch.Filter.Basic
import DocumentSearch.Schema.Leaf

/-!
Holding a filter against the fields of an index before it is sent: ranges are for numbers and dates
only. A field that the index does not declare is left to the engine.
-/

namespace DocumentSearch.Filter

/-- The declaration of a field, the first one if the path is declared more than once. -/
def declared? (leaves : List Leaf) (field : String) : Option Leaf :=
  leaves.find? (·.path == field)

/-- Holds one leaf against the declared fields; the first bound of a range is reported. -/
def validateLeaf (leaves : List Leaf) (field : String) (conditions : List Condition) :
    Except Fault Unit :=
  match declared? leaves field, conditions.find? (·.comparison.isRange) with
  | some declared, some condition =>
    if declared.spec.kind.isOrdered then .ok ()
    else .error (.rangeOnUnordered field condition.comparison.name declared.spec.kind.token)
  | _, _ => .ok ()

mutual

/-- Holds a filter against the declared fields, from left to right. -/
def validate (leaves : List Leaf) : Filter → Except Fault Unit
  | .leaf field conditions => validateLeaf leaves field conditions
  | .any filters => validateAll leaves filters
  | .all filters => validateAll leaves filters

def validateAll (leaves : List Leaf) : List Filter → Except Fault Unit
  | [] => .ok ()
  | filter :: rest =>
    match validate leaves filter with
    | .error fault => .error fault
    | .ok () => validateAll leaves rest

end

end DocumentSearch.Filter
