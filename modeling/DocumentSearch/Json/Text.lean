import DocumentSearch.Binary64.Text
import DocumentSearch.Json.Basic

/-!
Compact JSON text: no blanks, members in their order, and as few escapes as the format allows.
-/

namespace DocumentSearch.Json

/-- Floats in JSON text have a point or a power of ten: plain from 0.00001 up to sixteen digits
before the point, by a power of ten outside of that. -/
def floatLayout : Binary64.Layout where
  plain := fun point => -5 < point && point ≤ 16
  wholeEnd := ".0"
  tie := .toEven

def numberText : Number → String
  | .int n => toString n
  | .float x _ => x.text floatLayout

/-- A character as it stands in a JSON string. -/
def escaped (c : Char) : String :=
  match c with
  | '"' => "\\\""
  | '\\' => "\\\\"
  | '\x08' => "\\b"
  | '\x0c' => "\\f"
  | '\n' => "\\n"
  | '\r' => "\\r"
  | '\t' => "\\t"
  | c =>
    if c.toNat < 0x20 then
      let digits := Nat.toDigits 16 c.toNat
      "\\u" ++ String.ofList (List.replicate (4 - digits.length) '0' ++ digits)
    else c.toString

def stringText (s : String) : String := "\"" ++ String.join (s.toList.map escaped) ++ "\""

mutual

/-- The compact text of a value. -/
def render : Json → String
  | .null => "null"
  | .bool b => if b then "true" else "false"
  | .num n => numberText n
  | .str s => stringText s
  | .arr items => "[" ++ ",".intercalate (renderItems items) ++ "]"
  | .obj members => "\x7b" ++ ",".intercalate (renderMembers members) ++ "\x7d"

def renderItems : List Json → List String
  | [] => []
  | item :: rest => render item :: renderItems rest

def renderMembers : List (String × Json) → List String
  | [] => []
  | (name, value) :: rest => (stringText name ++ ":" ++ render value) :: renderMembers rest

end

/-- A value where a plain text is wanted: a string as it is, anything else by its compact text. -/
def plainText : Json → String
  | .str s => s
  | value => render value

end DocumentSearch.Json
