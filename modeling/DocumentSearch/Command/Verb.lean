import DocumentSearch.Vocabulary

/-!
Commands: lists of words, the first of which says what to do.
-/

namespace DocumentSearch

/-- The words of a command, in order. -/
abbrev Command := List String

inductive Verb where
  | create
  | query
  | count
  | commit
  | drop
  | describe
  | waitIndexing
  | addAlias
  | deleteAlias
  | listAliases
deriving DecidableEq

def Verb.token : Verb → String
  | .create => "SEARCH.CREATE"
  | .query => "SEARCH.QUERY"
  | .count => "SEARCH.COUNT"
  | .commit => "SEARCH.COMMIT"
  | .drop => "SEARCH.DROP"
  | .describe => "SEARCH.DESCRIBE"
  | .waitIndexing => "SEARCH.WAITINDEXING"
  | .addAlias => "SEARCH.ALIASADD"
  | .deleteAlias => "SEARCH.ALIASDEL"
  | .listAliases => "SEARCH.LISTALIASES"

instance : Vocabulary Verb where
  all := [.create, .query, .count, .commit, .drop, .describe, .waitIndexing, .addAlias,
    .deleteAlias, .listAliases]
  word := Verb.token

namespace Command

/-- A word that is there under a condition. -/
def wordIf (condition : Bool) (word : String) : List String := if condition then [word] else []

/-- A word with its argument, where there is one. -/
def clause (word : String) (argument? : Option String) : List String :=
  match argument? with
  | some argument => [word, argument]
  | none => []

/-- A list of words with their number in front. -/
def counted (words : List String) : List String := toString words.length :: words

end Command

end DocumentSearch
