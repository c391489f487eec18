import FleetHealth.Text.Numeral

namespace FleetHealth

open Text

structure Decimal where
  digits : Nat
  exponent : Int
  deriving DecidableEq, Repr

namespace Decimal

def numerator (d : Decimal) : Nat := d.digits * tenTo d.exponent.toNat

def denominator (d : Decimal) : Nat := tenTo (-d.exponent).toNat

def width (d : Decimal) : Nat := (toString d.digits).length

/-- The least number that binary floating point of 64 bits rounds to infinity. -/
def floatLimit : Nat := (1 <<< 1024) - (1 <<< 970)

/-- A number too large for binary floating point. Only those with some three hundred digits in
front of the point have to be compared digit by digit. -/
def isTooLarge (d : Decimal) : Bool :=
  let places := d.width + d.exponent
  if d.digits = 0 ∨ places < 300 then false
  else if 320 < places then true
  else floatLimit * d.denominator ≤ d.numerator

end Decimal

end FleetHealth
