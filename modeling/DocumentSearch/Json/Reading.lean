import DocumentSearch.Json.Text
import DocumentSearch.Text.Quoted
import DocumentSearch.Vocabulary

/-!
Reading typed values out of JSON, with the reason where a value has the wrong shape. The members of
a record are read in document order, so the first wrong one is reported.

There are two forms of each. A word stands alone, or as the only name of an object, bound to null; a
record is an object, or the list of its members' values in their proper order.
-/

namespace DocumentSearch.Json

/-- Why a document is not the record that was wanted. -/
inductive Mismatch where
  /-- A value of another type than wanted. -/
  | wrongType (found : Json) (wanted : String)
  /-- A word outside the vocabulary. -/
  | unknownWord (word : String) (known : List String)
  /-- An object that stands for a word has more or fewer names than one. -/
  | notOneName
  /-- A list is too short or too long. -/
  | wrongLength (found : Nat) (wanted : String)
  | missing (name : String)
deriving DecidableEq

/-- What messages call a value. -/
def described : Json → String
  | .null => "null"
  | .bool true => "boolean `true`"
  | .bool false => "boolean `false`"
  | .num (.int n) => "integer `" ++ toString n ++ "`"
  | .num (.float x _) => "floating point `" ++ x.text floatLayout ++ "`"
  | .str s => "string " ++ Text.quoted s
  | .arr _ => "sequence"
  | .obj _ => "map"

namespace Mismatch

/-- The choice of words in a message. -/
def choice : List String → String
  | [a, b] => s!"`{a}` or `{b}`"
  | words => "one of " ++ ", ".intercalate (words.map fun word => s!"`{word}`")

def message : Mismatch → String
  | .wrongType found wanted => "invalid type: " ++ found.described ++ ", expected " ++ wanted
  | .unknownWord word known => s!"unknown variant `{word}`, expected " ++ choice known
  | .notOneName => "invalid value: map, expected map with a single key"
  | .wrongLength found wanted => s!"invalid length {found}, expected {wanted}"
  | .missing name => s!"missing field `{name}`"

end Mismatch

def readBool : Json → Except Mismatch Bool
  | .bool b => .ok b
  | value => .error (.wrongType value "a boolean")

def readText : Json → Except Mismatch String
  | .str s => .ok s
  | value => .error (.wrongType value "a string")

/-- A value that may be null, which counts as none. -/
def readOptional {α : Type} (read : Json → Except Mismatch α) : Json → Except Mismatch (Option α)
  | .null => .ok none
  | value => (read value).map some

def wordValue {α : Type} [Vocabulary α] (word : String) : Except Mismatch α :=
  match Vocabulary.ofWord? word with
  | some a => .ok a
  | none => .error (.unknownWord word (Vocabulary.words α))

def readWord {α : Type} [Vocabulary α] : Json → Except Mismatch α
  | .str word => wordValue word
  | .obj [(word, .null)] => wordValue word
  | .obj [(word, value)] =>
    match (wordValue word : Except Mismatch α) with
    | .ok _ => .error (.wrongType value "unit")
    | .error mismatch => .error mismatch
  | .obj _ => .error .notOneName
  | value => .error (.wrongType value "string or map")

/-- Reading the word of a value gives the value. -/
@[simp] theorem readWord_word {α : Type} [Vocabulary α] (a : α) :
    readWord (.str (Vocabulary.word a)) = .ok a := by
  simp [readWord, wordValue]

/-- Takes members into account one after another. -/
def readMembers {α : Type} (member : α → String → Json → Except Mismatch α) :
    α → List (String × Json) → Except Mismatch α
  | record, [] => .ok record
  | record, (name, value) :: rest =>
    match member record name value with
    | .ok record => readMembers member record rest
    | .error mismatch => .error mismatch

/-- A record whose members have the given names. A list may leave out members at its end. -/
def readRecord {α : Type} (record : String) (names : List String) (start : α)
    (member : α → String → Json → Except Mismatch α) : Json → Except Mismatch α
  | .obj members => readMembers member start members
  | .arr items =>
    match readMembers member start (names.zip items) with
    | .ok value =>
      if items.length ≤ names.length then .ok value
      else .error (.wrongLength items.length "fewer elements in array")
    | .error mismatch => .error mismatch
  | value => .error (.wrongType value ("struct " ++ record))

end DocumentSearch.Json
