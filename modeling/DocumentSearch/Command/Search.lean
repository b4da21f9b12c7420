import DocumentSearch.Command.Options
import DocumentSearch.Command.Verb
import DocumentSearch.Filter.Query

/-!
The commands that search an index:

`SEARCH.QUERY|SEARCH.COUNT name query [LIMIT n] [OFFSET n] [NOCONTENT] [ORDERBY field [ASC|DESC]]
[HIGHLIGHT FIELDS n field… [TAGS opening closing]] [SELECT n field…] [SCOREFUNC …]`

The clauses come in this order, however the options were set.
-/

namespace DocumentSearch

/-- The words for order and projection, which differ between engines. -/
inductive Dialect where
  | current
  | legacy
deriving DecidableEq

namespace Dialect

def name : Dialect → String
  | .current => "current"
  | .legacy => "legacy"

instance : Vocabulary Dialect where
  all := [.current, .legacy]
  word := name

/-- The word that introduces the order of hits. -/
def orderWord : Dialect → String
  | .current => "ORDERBY"
  | .legacy => "SORTBY"

/-- The word that introduces the fields to return. -/
def projectionWord : Dialect → String
  | .current => "SELECT"
  | .legacy => "RETURN"

end Dialect

inductive Purpose where
  | hits
  | count
deriving DecidableEq

def Purpose.verb : Purpose → Verb
  | .hits => .query
  | .count => .count

namespace SearchOptions

open Command

/-- Floats in commands are written out in full, whole numbers without a point. -/
def floatLayout : Binary64.Layout where
  plain := fun _ => true
  wholeEnd := ""
  tie := .away

def orderWords (dialect : Dialect) (order : SortKey) : List String :=
  [dialect.orderWord, order.field] ++ (order.direction?.map Direction.token).toList

/-- The words for highlighting; marks are sent only in pairs. -/
def highlightWords (highlight : Highlight) : List String :=
  ["HIGHLIGHT", "FIELDS"] ++ counted highlight.fields
    ++ match highlight.opening?, highlight.closing? with
      | some opening, some closing => ["TAGS", opening, closing]
      | _, _ => []

/-- The words for the fields to return, none where none is named. -/
def projectionWords (dialect : Dialect) (fields : List String) : List String :=
  if fields.isEmpty then [] else dialect.projectionWord :: counted fields

def termWords (term : ScoreTerm) : List String :=
  ["FIELDVALUE", term.field]
    ++ clause "MODIFIER" (term.modifier?.map Modifier.token)
    ++ clause "FACTOR" (term.factor?.map (Binary64.text floatLayout))
    ++ clause "MISSING" (term.missing?.map (Binary64.text floatLayout))

/-- The words for scoring. How to combine scores is said only where there are several. -/
def scoringWords (scoring : Scoring) : List String :=
  ["SCOREFUNC"]
    ++ (if 1 < scoring.terms.length then
        ["COMBINEMODE", (scoring.combine?.getD .multiply).token] else [])
    ++ clause "SCOREMODE" (scoring.mode?.map ScoreMode.token)
    ++ scoring.terms.flatMap termWords

def words (dialect : Dialect) (options : SearchOptions) : List String :=
  clause "LIMIT" (options.limit?.map toString)
    ++ clause "OFFSET" (options.offset?.map toString)
    ++ wordIf options.returnsKeysOnly "NOCONTENT"
    ++ options.order?.toList.flatMap (orderWords dialect)
    ++ options.highlight?.toList.flatMap highlightWords
    ++ options.projection?.toList.flatMap (projectionWords dialect)
    ++ options.scoring?.toList.flatMap scoringWords

end SearchOptions

namespace Filter

/-- The query text of a search; without a filter, every document is found. -/
def searchText : Option Filter → Except Fault String
  | none => .ok (Json.obj []).render
  | some filter => filter.queryText

end Filter

def searchCommand (purpose : Purpose) (index : String) (filter? : Option Filter)
    (options : SearchOptions) (dialect : Dialect) : Except Fault Command :=
  (Filter.searchText filter?).map fun text =>
    [purpose.verb.token, index, text] ++ options.words dialect

end DocumentSearch
