/-!
# Finite binary64 numbers

A magnitude is the number of its place in the ascending row of the nonnegative doubles. All of them
are whole multiples of `2 ^ (-1074)`, so that arithmetic on them is arithmetic on natural numbers,
rounded once to the nearest place; of two equally near ones the even place wins.
-/

set_option autoImplicit false

namespace Metacard

/-- The number of doubles from one power of two to the next, `2 ^ 52`. -/
def binade : Nat := 0x10000000000000

/-- A nonnegative double, as its place in the ascending row of them all. -/
structure Magnitude where
  place : Nat
  place_lt : place < 2047 * binade
  deriving DecidableEq, Repr

/-- A finite double: zero has both signs. -/
structure Binary64 where
  negative : Bool
  magnitude : Magnitude
  deriving DecidableEq, Repr

/-- The whole number nearest to a quotient; a half goes to the even neighbour. -/
def divToNearest (numerator denominator : Nat) : Nat :=
  let quotient := numerator / denominator
  let twice := 2 * (numerator % denominator)
  if twice < denominator then quotient
  else if denominator < twice then quotient + 1
  else quotient + quotient % 2

namespace Magnitude

/-- How many units of `2 ^ (-1074)` make one. -/
def one : Nat := Nat.pow 2 1074

def zero : Magnitude where
  place := 0
  place_lt := by decide

instance : Inhabited Magnitude := ⟨zero⟩

def greatest : Magnitude where
  place := 2047 * binade - 1
  place_lt := by decide

def units (x : Magnitude) : Nat :=
  if x.place < 2 * binade then x.place
  else (x.place % binade + binade) * Nat.pow 2 (x.place / binade - 1)

/-- The place nearest to a quotient of units; it may lie beyond the greatest double. -/
def nearestPlace (numerator denominator : Nat) : Nat :=
  let shift := (numerator / denominator).log2 - 52
  binade * shift + divToNearest numerator (denominator * Nat.pow 2 shift)

/-- The double nearest to a quotient of units, unless it would be infinite. -/
def nearestUnits? (numerator denominator : Nat) : Option Magnitude :=
  if h : nearestPlace numerator denominator < 2047 * binade then
    some ⟨nearestPlace numerator denominator, h⟩
  else none

def nearest? (numerator denominator : Nat) : Option Magnitude :=
  nearestUnits? (one * numerator) denominator

def ofNat? (n : Nat) : Option Magnitude :=
  nearest? n 1

def ofNat (n : Nat) : Magnitude :=
  (ofNat? n).getD greatest

def add? (x y : Magnitude) : Option Magnitude :=
  nearestUnits? (x.units + y.units) 1

def mul? (x y : Magnitude) : Option Magnitude :=
  nearest? (x.units * y.units) (one * one)

def div? (x y : Magnitude) : Option Magnitude :=
  nearest? x.units y.units

end Magnitude

namespace Binary64

def zero : Binary64 where
  negative := false
  magnitude := .zero

instance : Inhabited Binary64 := ⟨zero⟩

def ofNat (n : Nat) : Binary64 where
  negative := false
  magnitude := .ofNat n

end Binary64

end Metacard
