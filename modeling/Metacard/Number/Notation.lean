import Metacard.Number.Shortest
/-!
# Number texts

A double is written with its shortest decimal: positionally, and always with a fraction, while the
exponent of the first digit lies between `-5` and `15`; else with one digit before the point and a
signed exponent.
-/

set_option autoImplicit false

namespace Metacard

namespace Decimal

def positionalExponents : Int × Int := (-5, 15)

def positional (x : Decimal) : List Char :=
  if x.exponent < 0 then
    '0' :: '.' :: (List.replicate ((-x.exponent).toNat - 1) '0' ++ x.digits)
  else
    let whole := x.exponent.toNat + 1
    let fraction := x.digits.drop whole
    (x.digits.take whole ++ List.replicate (whole - x.digits.length) '0') ++
      '.' :: (if fraction.isEmpty then ['0'] else fraction)

/-- Scientific notation: one digit before the point, and no point without a fraction. -/
def scientific (x : Decimal) : List Char :=
  let mantissa :=
    match x.digits with
    | first :: second :: rest => first :: '.' :: second :: rest
    | digits => digits
  mantissa ++ 'e' :: (if x.exponent < 0 then '-' else '+') ::
    Nat.toDigits 10 x.exponent.natAbs

def render (x : Decimal) : List Char :=
  if positionalExponents.1 ≤ x.exponent && x.exponent ≤ positionalExponents.2 then x.positional
  else x.scientific

end Decimal

namespace Binary64

def render (x : Binary64) : String :=
  let digits := if x.magnitude.place = 0 then ['0', '.', '0'] else x.magnitude.shortest.render
  String.ofList (if x.negative then '-' :: digits else digits)

end Binary64

end Metacard
