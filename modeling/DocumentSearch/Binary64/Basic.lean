/-!
The 64-bit binary floating-point numbers, held as their bits and read exactly.

A finite number is plus or minus `significand · 2 ^ exponent`, and everything below is arithmetic
on these two. No operation goes through the machine's own floating point, so each of them can be
reasoned about.
-/

namespace DocumentSearch

/-- A 64-bit binary floating-point number, by its bits: sign, eleven bits of exponent, fifty-two of
fraction. -/
structure Binary64 where
  bits : UInt64
deriving DecidableEq

namespace Binary64

/-- Whether the sign bit is set. -/
def negative (x : Binary64) : Bool := decide (Nat.pow 2 63 ≤ x.bits.toNat)

/-- The exponent field: 0 below the normal range, 2047 for infinities and what is not a number. -/
def exponentField (x : Binary64) : Nat := x.bits.toNat / Nat.pow 2 52 % 2048

def fraction (x : Binary64) : Nat := x.bits.toNat % Nat.pow 2 52

def isFinite (x : Binary64) : Bool := decide (x.exponentField ≠ 2047)

/-- Whether the bits stand for no number at all. -/
def isNaN (x : Binary64) : Bool := decide (x.exponentField = 2047 ∧ x.fraction ≠ 0)

/-- The whole number that is scaled by a power of two; normal numbers have an implied leading bit.
-/
def significand (x : Binary64) : Nat :=
  if x.exponentField = 0 then x.fraction else x.fraction + Nat.pow 2 52

/-- The power of two that scales the significand. -/
def exponent (x : Binary64) : Int := (max x.exponentField 1 : Nat) - 1075

/-- The number with the given sign whose other bits are `magnitude`. -/
def ofMagnitude (negative : Bool) (magnitude : Nat) : Binary64 :=
  ⟨UInt64.ofNat (magnitude + if negative then Nat.pow 2 63 else 0)⟩

def infiniteMagnitude : Nat := 2047 * Nat.pow 2 52

def infinity (negative : Bool) : Binary64 := ofMagnitude negative infiniteMagnitude

/-- The bits that arithmetic gives where there is no number. -/
def nan : Binary64 := ofMagnitude false (infiniteMagnitude + Nat.pow 2 51)

/-- The number with its fraction cut off, for a finite number. -/
def truncate (x : Binary64) : Int :=
  let magnitude := x.significand * Nat.pow 2 x.exponent.toNat / Nat.pow 2 (-x.exponent).toNat
  if x.negative then -magnitude else magnitude

end Binary64

end DocumentSearch
