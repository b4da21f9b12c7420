import DocumentSearch.Json.Text
import DocumentSearch.Text.Blank
import DocumentSearch.Text.Digits

/-!
Counts and status numbers in replies. A count is a signed 64-bit number, given as a number or as a
text that begins with one.
-/

namespace DocumentSearch.Reply

/-- Whether a whole number is a signed 64-bit one. -/
def fitsInt64 (n : Int) : Bool := -Nat.pow 2 63 ≤ n && n < Nat.pow 2 63

/-- The signed 64-bit number nearest to a whole number. -/
def clampInt64 (n : Int) : Int := max (-Nat.pow 2 63) (min n (Nat.pow 2 63 - 1))

/-- The whole number that a text begins with: after white space an optional sign, then at least one
digit. What follows the digits is not looked at. -/
def leadingInt? (s : String) : Option Int :=
  let (negative, rest) := Text.splitSign (s.toList.dropWhile Text.isBlank)
  let digits := rest.takeWhile Char.isDigit
  let n := Text.signed negative (Text.digitsValue digits)
  if digits.isEmpty || !fitsInt64 n then none else some n

/-- The count that a reply is. A number past the range counts as the end of the range, and a
fraction is cut off. -/
def count? : Json → Option Int
  | .num (.int n) => some (clampInt64 n)
  | .num (.float x _) => some (clampInt64 x.truncate)
  | .str s => leadingInt? s
  | _ => none

/-- The status number that a reply is, zero if it is none. -/
def status (reply : Json) : Int := (count? reply).getD 0

/-- Whether a reply says that something was done. -/
def succeeded (reply : Json) : Bool := status reply == 1

end DocumentSearch.Reply
