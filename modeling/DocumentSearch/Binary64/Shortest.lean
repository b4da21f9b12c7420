import DocumentSearch.Binary64.Nearest

/-!
The fewest decimal digits that read back as the same float.

The reals that round to a float form an interval around it. For one digit, then two, and so on up to
seventeen, the two neighbours of the float on that decimal grid are tried: the first grid with a
neighbour inside the interval wins, and of two the nearer one.
-/

namespace DocumentSearch.Binary64

/-- What becomes of a float that lies halfway between two shortest candidates. -/
inductive Tie where
  /-- The candidate with the even last digit. -/
  | toEven
  /-- The candidate further from zero. -/
  | away
deriving DecidableEq

/-- The positive reals that round to one float, over a common denominator. -/
structure Basin where
  low : Nat
  value : Nat
  high : Nat
  den : Nat
  /-- Whether the ends belong to it. -/
  closed : Bool

/-- The reals that round to a positive finite float: half a place to both sides, a quarter below a
power of two, where the places are narrower. The ends belong to it when the significand is even. -/
def basin (x : Binary64) : Basin :=
  let below := if x.fraction = 0 ∧ 1 < x.exponentField then 1 else 2
  let unit := Nat.pow 2 x.exponent.toNat
  { low := (4 * x.significand - below) * unit
    value := 4 * x.significand * unit
    high := (4 * x.significand + 2) * unit
    den := 4 * Nat.pow 2 (-x.exponent).toNat
    closed := x.significand % 2 == 0 }

namespace Basin

/-- Whether `candidate · 10 ^ power` lies in the basin. -/
def contains (b : Basin) (candidate : Nat) (power : Int) : Bool :=
  let point := candidate * Nat.pow 10 power.toNat * b.den
  let scale := Nat.pow 10 (-power).toNat
  if b.closed then b.low * scale ≤ point && point ≤ b.high * scale
  else b.low * scale < point && point < b.high * scale

/-- The point of the grid of `10 ^ power` just below the value. -/
def floorOn (b : Basin) (power : Int) : Nat :=
  b.value * Nat.pow 10 (-power).toNat / (b.den * Nat.pow 10 power.toNat)

/-- The point of the grid of `10 ^ power` that is nearest to the value. -/
def nearestOn (b : Basin) (tie : Tie) (power : Int) : Nat :=
  let unit := b.den * Nat.pow 10 power.toNat
  let floor := b.floorOn power
  let rest := b.value * Nat.pow 10 (-power).toNat % unit
  if 2 * rest < unit then floor
  else if unit < 2 * rest then floor + 1
  else match tie with
    | .toEven => floor + floor % 2
    | .away => floor + 1

/-- The point of the grid of `10 ^ power` that stands for the value, if one of the two next to it
lies in the basin. -/
def onGrid (b : Basin) (tie : Tie) (power : Int) : Option Nat :=
  let floor := b.floorOn power
  match b.contains floor power, b.contains (floor + 1) power with
  | true, true => some (b.nearestOn tie power)
  | true, false => some floor
  | false, true => some (floor + 1)
  | false, false => none

/-- The place of the decimal point: the value lies in `[10 ^ (point - 1), 10 ^ point)`. -/
def point (b : Basin) : Int :=
  if b.den ≤ b.value then digitCount (b.value / b.den)
  else 1 - (digitCount ((b.den + b.value - 1) / b.value - 1) : Int)

end Basin

/-- Decimal digits with a place for the point: `0.d₁d₂…dₙ · 10 ^ point`. -/
structure Decimal where
  digits : List Char
  point : Int
deriving DecidableEq

namespace Decimal

/-- The decimal `coefficient · 10 ^ power`, without closing zeros. -/
def ofScaled (coefficient : Nat) (power : Int) : Decimal :=
  let digits := Nat.toDigits 10 coefficient
  { digits := (digits.reverse.dropWhile (· == '0')).reverse
    point := digits.length + power }

end Decimal

/-- The shortest decimal of the magnitude of a finite float; zero has the one digit 0. Seventeen
digits always suffice. -/
def shortest (tie : Tie) (x : Binary64) : Decimal :=
  if x.significand = 0 then ⟨['0'], 1⟩
  else
    let b := x.basin
    let power (digits : Nat) : Int := b.point - digits
    let found := (List.range 17).findSome? fun fewer =>
      (b.onGrid tie (power (fewer + 1))).map (Decimal.ofScaled · (power (fewer + 1)))
    found.getD (Decimal.ofScaled (b.nearestOn tie (power 17)) (power 17))

end DocumentSearch.Binary64
