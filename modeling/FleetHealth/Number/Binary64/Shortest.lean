import FleetHealth.Number.Binary64
import FleetHealth.Number.Decimal
/-!
The shortest decimal number for a size of binary floating point: of all those that are rounded to
it, one with the fewest digits, and of several such the nearest one.
-/

namespace FleetHealth.Size64

open Text Binary64

/-- Whether the next smaller size is only half as far away as the next larger one. -/
def isNarrowBelow (a : Size64) : Bool := a.scale != 0 && 2 * a.digits == digitLimit

def lowerEnd (a : Size64) : Nat := (4 * a.digits - if a.isNarrowBelow then 1 else 2) <<< a.scale

def upperEnd (a : Size64) : Nat := (4 * a.digits + 2) <<< a.scale

/-- Whether a decimal number is rounded to a size. The ends belong to even ones. -/
def isNearest (a : Size64) (d : Decimal) : Bool :=
  let quarters := d.numerator <<< (oneScale + 2)
  let lower := a.lowerEnd * d.denominator
  let upper := a.upperEnd * d.denominator
  if a.digits % 2 = 0 then lower ≤ quarters && quarters ≤ upper
  else lower < quarters && quarters < upper

def onGrid? (a : Size64) (exponent : Int) : Option Decimal :=
  let n := a.units * tenTo (-exponent).toNat
  let d := tenTo exponent.toNat <<< oneScale
  let candidates := [nearestQuotient n d, n / d, n / d + 1].map fun digits => ⟨digits, exponent⟩
  candidates.find? a.isNearest

def exactly (a : Size64) : Decimal :=
  { digits := a.units * Nat.pow 5 oneScale, exponent := -(oneScale : Int) }

def onGrids (a : Size64) : Nat → Int → Decimal
  | 0, _ => a.exactly
  | steps + 1, exponent => (a.onGrid? exponent).getD (a.onGrids steps (exponent - 1))

/-- A power of ten that is larger than a size, but not much. The binary digits are counted, and
each is worth a little more than three tenths of a decimal one. -/
def topExponent (a : Size64) : Int :=
  Int.fdiv ((a.units.log2 + 1 : Int) * 30103 - oneScale * 30103) 100000 + 2

/-- The shortest decimal number. Seventeen digits are always enough. -/
def shortest (a : Size64) : Decimal :=
  if a.isZero then { digits := 0, exponent := 0 } else a.onGrids 22 a.topExponent

end FleetHealth.Size64
