import DocumentSearch.Binary64.Shortest
import DocumentSearch.Text.Digits

/-!
Decimal text of floats, both ways. A `Layout` holds what a format decides (when a power of ten is
written, how a whole number ends, where ties go); `text` writes by it. `ofText?` reads any number
text: sign, digits with a point anywhere, a power of ten, or the words for infinity and for what is
not a number.
-/

namespace DocumentSearch.Binary64

open DocumentSearch.Text (digitsValue splitSign signed)

/-- How a format writes floats. -/
structure Layout where
  /-- Whether a number whose point stands at this place is written without a power of ten. -/
  plain : Int → Bool
  /-- What follows the digits of a whole number. -/
  wholeEnd : String
  tie : Tie

/-- Digits written out in full, with zeros where the point lies outside of them. -/
def Decimal.plainText (d : Decimal) (wholeEnd : String) : String :=
  if d.point ≤ 0 then "0." ++ String.ofList (List.replicate (-d.point).toNat '0' ++ d.digits)
  else
    let whole := d.digits.take d.point.toNat
    let rest := d.digits.drop d.point.toNat
    let padding := List.replicate (d.point.toNat - d.digits.length) '0'
    String.ofList (whole ++ padding)
      ++ if rest.isEmpty then wholeEnd else "." ++ String.ofList rest

/-- One digit before the point and a signed power of ten. -/
def Decimal.scientificText (d : Decimal) : String :=
  let power := d.point - 1
  String.ofList (d.digits.take 1)
    ++ (if (d.digits.drop 1).isEmpty then "" else "." ++ String.ofList (d.digits.drop 1))
    ++ "e" ++ (if power < 0 then "-" else "+") ++ toString power.natAbs

/-- The text of a float in a layout: the shortest digits that read back. -/
def text (layout : Layout) (x : Binary64) : String :=
  if x.isNaN then "NaN"
  else
    let sign := if x.negative then "-" else ""
    if x.isFinite then
      let d := x.shortest layout.tie
      sign ++ if layout.plain d.point then d.plainText layout.wholeEnd else d.scientificText
    else sign ++ "inf"

/-- The sixteen hexadecimal digits of the bits; everything that is not a number reads `NaN`. -/
def bitsText (x : Binary64) : String :=
  if x.isNaN then "NaN"
  else
    let digits := Nat.toDigits 16 x.bits.toNat
    String.ofList (List.replicate (16 - digits.length) '0' ++ digits)

/-- The power of ten that ends a number text: nothing, or the letter e with a signed whole number.
-/
def powerOfText? : List Char → Option Int
  | [] => some 0
  | letter :: rest =>
    if letter = 'e' ∨ letter = 'E' then
      let (negative, digits) := splitSign rest
      if digits.isEmpty ∨ ¬ digits.all Char.isDigit then none
      else some (signed negative (digitsValue digits))
    else none

/-- The digits after a point, and what follows them. -/
def splitFraction : List Char → List Char × List Char
  | '.' :: rest => (rest.takeWhile Char.isDigit, rest.dropWhile Char.isDigit)
  | chars => ([], chars)

/-- The float that a decimal text without a sign stands for; it has a digit before or after the
point. -/
def ofUnsignedText? (negative : Bool) (chars : List Char) : Option Binary64 :=
  let whole := chars.takeWhile Char.isDigit
  let (fraction, rest) := splitFraction (chars.dropWhile Char.isDigit)
  if whole.isEmpty ∧ fraction.isEmpty then none
  else (powerOfText? rest).map fun power =>
    ofDecimal negative (digitsValue (whole ++ fraction)) (power - fraction.length)

/-- The float that a text stands for. The words `inf`, `infinity` and `nan` count in any case. -/
def ofText? (chars : List Char) : Option Binary64 :=
  let (negative, rest) := splitSign chars
  let word := String.ofList (rest.map Char.toLower)
  if word = "inf" ∨ word = "infinity" then some (infinity negative)
  else if word = "nan" then some nan
  else ofUnsignedText? negative rest

end DocumentSearch.Binary64
