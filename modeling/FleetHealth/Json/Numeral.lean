import FleetHealth.Json.Raw
import FleetHealth.Text.Scan
/-!
JSON numerals. Digits alone that fit into 64 bits, signed or unsigned, are an integer; any other
numeral is a number of binary floating point, made of the digits that fit into 64 bits and a power
of ten.
-/

namespace FleetHealth.Json

open Text

structure Numeral where
  negative : Bool
  whole : List Char
  fraction : List Char
  exponentNegative : Bool
  exponent : List Char

namespace Numeral

def isLetterE (c : Char) : Bool := c == 'e' || c == 'E'

def scanWhole : Scan (List Char) := do
  let ds ← Scan.digits
  if ds.head? = some '0' ∧ ds.length ≠ 1 then Scan.refuse else return ds

def scanFraction : Scan (List Char) := do
  if ← Scan.tryLiteral '.' then Scan.digits else return []

def scanExponent : Scan (Bool × List Char) := do
  if (← Scan.upTo 1 isLetterE).isEmpty then return (false, [])
  if ← Scan.tryLiteral '-' then return (true, ← Scan.digits)
  let _ ← Scan.tryLiteral '+'
  return (false, ← Scan.digits)

def scan : Scan Numeral := do
  let negative ← Scan.tryLiteral '-'
  let whole ← scanWhole
  let fraction ← scanFraction
  let (exponentNegative, exponent) ← scanExponent
  return { negative, whole, fraction, exponentNegative, exponent }

/-- The integer that a numeral is, if it is one. Zero has no sign. -/
def int? (n : Numeral) : Option Int :=
  let value := ofDigits n.whole
  if n.fraction.isEmpty ∧ n.exponent.isEmpty then
    if n.negative then if 0 < value ∧ 2 * value ≤ wordLimit then some (-(value : Int)) else none
    else if value < wordLimit then some value else none
  else none

/-- Adds digits to a number as long as it fits into 64 bits; the other ones are left. -/
def absorb (n : Nat) : List Char → Nat × List Char
  | [] => (n, [])
  | d :: ds => if addDigit n d < wordLimit then absorb (addDigit n d) ds else (n, d :: ds)

/-- The digits that fit into 64 bits. Those that are left of the whole number still have their
places; those that are left of the fraction do not count. -/
def significand (n : Numeral) : Nat × Int :=
  let (whole, left) := absorb 0 n.whole
  let (digits, unread) := absorb whole n.fraction
  (digits, left.length - (n.fraction.length - unread.length : Nat))

def size? (n : Numeral) : Option Size64 :=
  let (digits, exponent) := n.significand
  Size64.scaled? digits
    ((if n.exponentNegative then -1 else 1) * (ofDigits n.exponent : Int) + exponent)

/-- What a numeral says. One that is too large for floating point says nothing. -/
def read (n : Numeral) : RawJson :=
  match n.int? with
  | some i => .int i
  | none => n.size?.elim .void fun size => .real { negative := n.negative, size }

end Numeral

end FleetHealth.Json
