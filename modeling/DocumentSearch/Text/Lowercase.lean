import DocumentSearch.Text.LetterCase

/-!
Small letters, by the full Unicode rules: a capital I with a dot becomes two characters, and a
capital sigma at the end of a word takes its final form.
-/

namespace DocumentSearch.Text

/-- The small form of a character where its place does not matter. -/
def smallLetters (c : Char) : List Char :=
  if c = 'İ' then ['i', '\u0307']
  else match caseRuns.findSome? (·.small? c.toNat) with
    | some code => [Char.ofNat code]
    | none => [c]

/-- Whether the nearest letter is one with case, marks inside the word being passed over. -/
def reachesCased (chars : List Char) : Bool :=
  match chars.dropWhile caseIgnorable.contains with
  | [] => false
  | c :: _ => cased.contains c

/-- A sigma ends its word when a letter stands before it and none after it. -/
def sigma (before after : List Char) : Char :=
  if reachesCased before && !reachesCased after then 'ς' else 'σ'

/-- The small letters of the rest of a text, given what stands before it, last character first. -/
def lowercaseAfter : List Char → List Char → List Char
  | _, [] => []
  | before, c :: rest =>
    (if c = 'Σ' then [sigma before rest] else smallLetters c) ++ lowercaseAfter (c :: before) rest

def lowercase (s : String) : String := String.ofList (lowercaseAfter [] s.toList)

end DocumentSearch.Text
