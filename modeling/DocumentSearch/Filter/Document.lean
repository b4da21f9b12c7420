import DocumentSearch.Filter.Basic

/-!
Reading filters from their JSON form: `OR` and `AND` hold lists of filters, and any other object
names one field with its conditions. Of an object with a combining member only that member is read,
`OR` before `AND`.
-/

namespace DocumentSearch.Filter

/-- Why a document is not a filter. -/
inductive Flaw where
  | notObject (found : Json)
  | notList (combiner : String)
  | noField
  | manyFields
  | conditionsNotObject (field : String)
  | badOperand (found : Json) (field : String)

def Flaw.reason : Flaw → String
  | .notObject found => "expected an object, got " ++ found.render
  | .notList combiner => s!"{combiner} expects an array"
  | .noField => "empty filter object"
  | .manyFields => "a filter leaf must name exactly one field"
  | .conditionsNotObject field => s!"operations for field '{field}' must be an object"
  | .badOperand found field => "unsupported value " ++ found.render ++ s!" for field '{field}'"

def Flaw.fault (flaw : Flaw) : Fault := .badFilter flaw.reason

/-- The operand that a value is; null leaves it out. -/
def readOperand (field : String) : Json → Except Fault (Option Operand)
  | .null => .ok none
  | .str s => .ok (some (.text s))
  | .num n => .ok (some (.number n))
  | .bool b => .ok (some (.bool b))
  | value => .error (Flaw.badOperand value field).fault

/-- The condition that one member of a leaf is: its name is looked at before its operand. -/
def readCondition (field name : String) (value : Json) : Except Fault Condition :=
  match Comparison.read name with
  | .error fault => .error fault
  | .ok comparison => (readOperand field value).map fun operand? => ⟨comparison, operand?⟩

def readConditions (field : String) : List (String × Json) → Except Fault (List Condition)
  | [] => .ok []
  | (name, value) :: rest =>
    match readCondition field name value with
    | .error fault => .error fault
    | .ok condition => (readConditions field rest).map (condition :: ·)

def readLeaf : List (String × Json) → Except Fault Filter
  | [] => .error Flaw.noField.fault
  | [(field, .obj conditions)] => (readConditions field conditions).map (.leaf field)
  | [(field, _)] => .error (Flaw.conditionsNotObject field).fault
  | _ :: _ :: _ => .error Flaw.manyFields.fault

mutual

/-- The filter that a document describes. -/
def ofJson : Json → Except Fault Filter
  | .obj members =>
    match readCombined "OR" members with
    | some filters => filters.map .any
    | none =>
      match readCombined "AND" members with
      | some filters => filters.map .all
      | none => readLeaf members
  | document => .error (Flaw.notObject document).fault

/-- The filters that a combining member holds, if the object has that member. -/
def readCombined (combiner : String) :
    List (String × Json) → Option (Except Fault (List Filter))
  | [] => none
  | (name, value) :: rest =>
    if name = combiner then some (readChildren combiner value) else readCombined combiner rest

def readChildren (combiner : String) : Json → Except Fault (List Filter)
  | .arr documents => ofJsonAll documents
  | _ => .error (Flaw.notList combiner).fault

def ofJsonAll : List Json → Except Fault (List Filter)
  | [] => .ok []
  | document :: rest =>
    match ofJson document with
    | .error fault => .error fault
    | .ok filter => (ofJsonAll rest).map (filter :: ·)

end

end DocumentSearch.Filter
