import DocumentSearch.Binary64.Basic
import DocumentSearch.Vocabulary

/-!
What a search may ask for beside its filter: paging, order, highlighting, the fields to return and
how hits are scored. Options are set one at a time; each setting replaces the former one of its
kind.
-/

namespace DocumentSearch

inductive Direction where
  | ascending
  | descending
deriving DecidableEq

def Direction.token : Direction → String
  | .ascending => "ASC"
  | .descending => "DESC"

instance : Vocabulary Direction where
  all := [.ascending, .descending]
  word := Direction.token

/-- The field that hits are ordered by. -/
structure SortKey where
  field : String
  direction? : Option Direction
deriving DecidableEq

/-- The fields in which matched words are marked, and the marks to put around them. -/
structure Highlight where
  fields : List String
  opening? : Option String
  closing? : Option String
deriving DecidableEq

/-- How the score of the fields is applied to the relevance. -/
inductive ScoreMode where
  | multiply
  | sum
  | replace
deriving DecidableEq

def ScoreMode.token : ScoreMode → String
  | .multiply => "MULTIPLY"
  | .sum => "SUM"
  | .replace => "REPLACE"

instance : Vocabulary ScoreMode where
  all := [.multiply, .sum, .replace]
  word := ScoreMode.token

/-- How the scores of several fields become one. -/
inductive CombineMode where
  | multiply
  | sum
deriving DecidableEq

def CombineMode.token : CombineMode → String
  | .multiply => "MULTIPLY"
  | .sum => "SUM"

instance : Vocabulary CombineMode where
  all := [.multiply, .sum]
  word := CombineMode.token

/-- What is done to the value of a field before it counts as a score. -/
inductive Modifier where
  | none | log | log1p | log2p | ln | ln1p | ln2p | square | sqrt | reciprocal
deriving DecidableEq

def Modifier.token : Modifier → String
  | .none => "NONE"
  | .log => "LOG"
  | .log1p => "LOG1P"
  | .log2p => "LOG2P"
  | .ln => "LN"
  | .ln1p => "LN1P"
  | .ln2p => "LN2P"
  | .square => "SQUARE"
  | .sqrt => "SQRT"
  | .reciprocal => "RECIPROCAL"

instance : Vocabulary Modifier where
  all := [.none, .log, .log1p, .log2p, .ln, .ln1p, .ln2p, .square, .sqrt, .reciprocal]
  word := Modifier.token

/-- What one field adds to the score. -/
structure ScoreTerm where
  field : String
  modifier? : Option Modifier
  factor? : Option Binary64
  /-- The value to count where a document has none. -/
  missing? : Option Binary64
deriving DecidableEq

structure Scoring where
  terms : List ScoreTerm
  combine? : Option CombineMode
  mode? : Option ScoreMode
deriving DecidableEq

structure SearchOptions where
  limit? : Option Nat := none
  offset? : Option Nat := none
  /-- Hits come without the values of their fields. -/
  keysOnly : Bool := false
  order? : Option SortKey := none
  highlight? : Option Highlight := none
  /-- The fields to return; an empty list asks for keys and scores only. -/
  projection? : Option (List String) := none
  scoring? : Option Scoring := none
deriving DecidableEq

/-- One step in setting up the options of a search. -/
inductive Setting where
  | limit (count : Nat)
  | offset (count : Nat)
  | keysOnly
  | order (key : SortKey)
  | highlight (highlight : Highlight)
  | projection (fields : List String)
  | scoring (scoring : Scoring)
deriving DecidableEq

namespace SearchOptions

def withSetting (options : SearchOptions) : Setting → SearchOptions
  | .limit count => { options with limit? := some count }
  | .offset count => { options with offset? := some count }
  | .keysOnly => { options with keysOnly := true }
  | .order key => { options with order? := some key }
  | .highlight highlight => { options with highlight? := some highlight }
  | .projection fields => { options with projection? := some fields }
  | .scoring scoring => { options with scoring? := some scoring }

def withSettings (options : SearchOptions) (settings : List Setting) : SearchOptions :=
  settings.foldl withSetting options

/-- Whether hits come without the values of their fields. -/
def returnsKeysOnly (options : SearchOptions) : Bool :=
  options.keysOnly || options.projection? == some []

end SearchOptions

end DocumentSearch
