import DocumentSearch.Filter.Basic

/-!
The engine's query for a filter, a JSON object:

* a field with a plain value asks for equality, and one with `$range` for the bounds given there;
* `$or` asks for any of a list of queries;
* the members of one object are asked for together.

Filters that are all asked for are therefore merged into one object. Where several of them bind the
same name, the last one counts, at the place of the first.
-/

namespace DocumentSearch.Filter

/-- The bounds that conditions give, later ones winning; each needs its operand. -/
def bounds (field : String) (sofar : Members Json) : List Condition → Except Fault (Members Json)
  | [] => .ok sofar
  | condition :: rest =>
    match condition.operand? with
    | none => .error (.missingOperand field)
    | some operand =>
      match condition.comparison.bound? with
      | some bound => bounds field (sofar.put bound operand.toJson) rest
      | none => bounds field sofar rest

/-- The query of a leaf. The first equality is asked for alone, whatever else is said about the
field; without one, all conditions together are a range. -/
def queryLeaf (field : String) (conditions : List Condition) : Except Fault (Members Json) :=
  if conditions.isEmpty then .error (.noConditions field)
  else match conditions.find? (·.comparison == .equals) with
    | some equality =>
      match equality.operand? with
      | some operand => .ok [(field, operand.toJson)]
      | none => .error (.missingOperand field)
    | none =>
      (bounds field [] conditions).map fun range => [(field, .obj [("$range", .obj range)])]

mutual

/-- The members of the query of a filter. -/
def query : Filter → Except Fault (Members Json)
  | .leaf field conditions => queryLeaf field conditions
  | .any filters => (queries filters).map fun alternatives => [("$or", .arr alternatives)]
  | .all filters => merged [] filters

/-- The queries of filters, each an object of its own. -/
def queries : List Filter → Except Fault (List Json)
  | [] => .ok []
  | filter :: rest =>
    match query filter with
    | .error fault => .error fault
    | .ok members => (queries rest).map (.obj members :: ·)

/-- The queries of filters, merged one after another into the members found so far. -/
def merged (sofar : Members Json) : List Filter → Except Fault (Members Json)
  | [] => .ok sofar
  | filter :: rest =>
    match query filter with
    | .error fault => .error fault
    | .ok members => merged (sofar.putAll members) rest

end

def toQuery (filter : Filter) : Except Fault Json := (query filter).map .obj

def queryText (filter : Filter) : Except Fault String := (toQuery filter).map Json.render

end DocumentSearch.Filter
