import DocumentSearch.Text.Hidden

/-!
A text in double quotes, as messages show it: quotes, backslashes and the common control characters
are escaped by a letter, and hidden characters by their number.
-/

namespace DocumentSearch.Text

/-- A character as it stands between the quotes. -/
def quotedChar (c : Char) : String :=
  match c with
  | '"' => "\\\""
  | '\\' => "\\\\"
  | '\n' => "\\n"
  | '\r' => "\\r"
  | '\t' => "\\t"
  | '\x00' => "\\0"
  | c =>
    if hidden.contains c then
      "\\u\x7b" ++ String.ofList (Nat.toDigits 16 c.toNat) ++ "\x7d"
    else c.toString

def quoted (s : String) : String := "\"" ++ String.join (s.toList.map quotedChar) ++ "\""

end DocumentSearch.Text
