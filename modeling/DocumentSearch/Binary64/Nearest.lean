import DocumentSearch.Binary64.Basic

/-!
The nearest 64-bit float to an exact value, given as a quotient or as a decimal. Halfway values go
to the even significand; values past the largest finite number become infinite.
-/

namespace DocumentSearch.Binary64

/-- The whole number nearest to a quotient, a half going to the even neighbour. -/
def roundHalfEven (num den : Nat) : Nat :=
  let floor := num / den
  let rest := num % den
  if 2 * rest < den then floor
  else if den < 2 * rest then floor + 1
  else floor + floor % 2

/-- A quotient scaled down by `2 ^ shift`, or up where `shift` is negative. -/
def scaled (num den : Nat) (shift : Int) : Nat × Nat :=
  (num * Nat.pow 2 (-shift).toNat, den * Nat.pow 2 shift.toNat)

/-- The power of two at or just below a positive quotient. -/
def floorLog2 (num den : Nat) : Int :=
  let estimate : Int := num.log2 - den.log2
  let (scaledNum, scaledDen) := scaled num den estimate
  if scaledNum < scaledDen then estimate - 1 else estimate

/-- The nearest float to a quotient. The significand is rounded at its own last place, or at the
smallest place there is; a carry out of the significand moves on to the next exponent by itself,
since the exponent field stands just above the fraction. -/
def ofQuotient (negative : Bool) (num den : Nat) : Binary64 :=
  if num = 0 then ofMagnitude negative 0
  else
    let place := max (floorLog2 num den - 52) (-1074)
    let (scaledNum, scaledDen) := scaled num den place
    let magnitude := (place + 1074).toNat * Nat.pow 2 52 + roundHalfEven scaledNum scaledDen
    ofMagnitude negative (min magnitude infiniteMagnitude)

/-- The number of decimal digits of a whole number, none for zero. -/
def digitCount (n : Nat) : Nat := if n = 0 then 0 else (Nat.toDigits 10 n).length

/-- The nearest float to `coefficient · 10 ^ power`. A value of 10^310 and more is past every finite
number and one below 10^-330 rounds to zero, so that no huge power is ever computed. -/
def ofDecimal (negative : Bool) (coefficient : Nat) (power : Int) : Binary64 :=
  let point := digitCount coefficient + power
  if coefficient = 0 ∨ point < -330 then ofMagnitude negative 0
  else if 310 < point then infinity negative
  else ofQuotient negative (coefficient * Nat.pow 10 power.toNat) (Nat.pow 10 (-power).toNat)

end DocumentSearch.Binary64
