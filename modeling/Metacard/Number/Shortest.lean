import Metacard.Number.Binary64
/-!
# Shortest decimals

The decimal of a double has the fewest digits that read back as that double, and of these it is the
nearest to its value. A grid of decimals with a given number of digits holds one that reads back
only if one of the two neighbours of the value on it does.
-/

set_option autoImplicit false

namespace Metacard

/-- A positive decimal: its digits without a final zero, and the exponent of the first of them. -/
structure Decimal where
  digits : List Char
  exponent : Int
  deriving DecidableEq, Repr

namespace Decimal

/-- A quotient equal to `n * 10 ^ scale`. -/
def scaled (n : Nat) (scale : Int) : Nat × Nat :=
  if 0 ≤ scale then (n * Nat.pow 10 scale.toNat, 1) else (n, Nat.pow 10 (-scale).toNat)

def significantDigits (n : Nat) : List Char :=
  ((Nat.toDigits 10 n).reverse.dropWhile (· == '0')).reverse

def ofScaled (n : Nat) (scale : Int) : Decimal where
  digits := significantDigits n
  exponent := scale + ((Nat.toDigits 10 n).length - 1 : Nat)

end Decimal

namespace Magnitude

def readsBack (x : Magnitude) (n : Nat) (scale : Int) : Bool :=
  let quotient := Decimal.scaled n scale
  decide (nearest? quotient.1 quotient.2 = some x)

/-- The exponent of the leading decimal digit of a positive magnitude. The least one has the
exponent `-324`. -/
def decimalExponent (x : Magnitude) : Int :=
  ((Nat.toDigits 10 (Nat.pow 10 324 * x.units / one)).length : Int) - 325

/-- The neighbour of `x` on the grid of multiples of `10 ^ scale` that reads back as `x` and is
nearest to it; of two equally near ones the even multiple. -/
def onGrid? (x : Magnitude) (scale : Int) : Option Nat :=
  let quotient := Decimal.scaled x.units (-scale)
  let divisor := one * quotient.2
  let below := quotient.1 / divisor
  let above := below + 1
  let belowHits := x.readsBack below scale
  let aboveHits := x.readsBack above scale
  if belowHits && aboveHits then some (divToNearest quotient.1 divisor)
  else if belowHits then some below
  else if aboveHits then some above
  else none

/-- The first grid, of those with `digits` to `digits + extra` digits, that has a hit. -/
def shortestFrom (x : Magnitude) (digits : Nat) : Nat → Decimal
  | 0 =>
      let scale := x.decimalExponent - digits + 1
      .ofScaled ((x.onGrid? scale).getD 0) scale
  | extra + 1 =>
      let scale := x.decimalExponent - digits + 1
      ((x.onGrid? scale).map (.ofScaled · scale)).getD (x.shortestFrom (digits + 1) extra)

/-- The shortest decimal of a positive magnitude. Seventeen digits always read back. -/
def shortest (x : Magnitude) : Decimal :=
  x.shortestFrom 1 16

end Magnitude

end Metacard
