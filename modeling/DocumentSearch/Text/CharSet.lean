/-!
Sets of characters, given by ranges of character numbers.
-/

namespace DocumentSearch.Text

/-- Ranges of character numbers, both ends included. -/
abbrev CharSet := List (Nat × Nat)

def CharSet.contains (set : CharSet) (c : Char) : Bool :=
  set.any fun range => range.1 ≤ c.toNat && c.toNat ≤ range.2

end DocumentSearch.Text
