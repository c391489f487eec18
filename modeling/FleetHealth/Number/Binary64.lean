import FleetHealth.Text.Numeral
/-!
Binary floating point of 64 bits. A size is a whole multiple of the least positive one and has at
most 53 binary digits that count, so that all arithmetic on sizes is done in natural numbers. The
exact result of an operation is rounded once, to the nearest size and to the even one of two.
-/

namespace FleetHealth

open Text

namespace Binary64

/-- The first number with more than 53 binary digits. -/
def digitLimit : Nat := 0x20000000000000

/-- How many times a size can be doubled. -/
def maxScale : Nat := 2045

/-- How many times the least size is doubled to make one. -/
def oneScale : Nat := 1074

/-- Each size has one form: it is doubled only if all of its digits are in use. -/
def IsSize (digits scale : Nat) : Prop :=
  digits < digitLimit ∧ scale ≤ maxScale ∧ (scale = 0 ∨ digitLimit ≤ 2 * digits)

instance (digits scale : Nat) : Decidable (IsSize digits scale) :=
  inferInstanceAs (Decidable (_ ∧ _ ∧ _))

end Binary64

structure Size64 where
  digits : Nat
  scale : Nat
  isSize : Binary64.IsSize digits scale
  deriving DecidableEq, Repr

/-- A finite number. Zero has a sign, too. -/
structure Binary64 where
  negative : Bool
  size : Size64
  deriving DecidableEq, Repr

/-- A quotient rounded to a whole number, to the even one of two that are equally near. -/
def nearestQuotient (n d : Nat) : Nat :=
  let q := n / d
  let r := n % d
  if 2 * r < d ∨ 2 * r = d ∧ q % 2 = 0 then q else q + 1

theorem nearestQuotient_near (n d : Nat) (h : 0 < d) :
    2 * (nearestQuotient n d * d) ≤ 2 * n + d ∧ 2 * n ≤ 2 * (nearestQuotient n d * d) + d := by
  have split_n := Nat.div_add_mod n d
  have r_lt := Nat.mod_lt n h
  rw [Nat.mul_comm] at split_n
  unfold nearestQuotient
  dsimp only
  split
  · omega
  · rw [Nat.add_mul, Nat.one_mul]
    omega

namespace Size64

open Binary64

def zero : Size64 := ⟨0, 0, by decide⟩

instance : Inhabited Size64 := ⟨zero⟩

def isZero (a : Size64) : Bool := a.digits == 0

def units (a : Size64) : Nat := a.digits <<< a.scale

def ofParts? (digits scale : Nat) : Option Size64 :=
  if h : IsSize digits scale then some ⟨digits, scale, h⟩ else none

def ofUnits? (n d : Nat) : Option Size64 :=
  let scale := (n / d).log2 - 52
  let digits := nearestQuotient n (d <<< scale)
  if digits < digitLimit then ofParts? digits scale else ofParts? (digits / 2) (scale + 1)

def ofNat? (n : Nat) : Option Size64 := ofUnits? (n <<< oneScale) 1

def times? (a b : Size64) : Option Size64 := ofUnits? (a.units * b.units) (1 <<< oneScale)

def over? (a b : Size64) : Option Size64 := ofUnits? (a.units <<< oneScale) b.units

def maxTens : Nat := 308

def tens? (n : Nat) : Option Size64 := ofNat? (tenTo (min n maxTens))

def timesTens? (a : Size64) (n : Nat) : Option Size64 :=
  if a.isZero then some a else if maxTens < n then none else tens? n >>= a.times?

/-- A size over a power of ten; a large power is divided by in two steps. -/
def overTens? (a : Size64) (n : Nat) : Option Size64 := do
  (← a.over? (← tens? n)).over? (← tens? (n - maxTens))

/-- A natural number times a power of ten, rounded before and after it is scaled. -/
def scaled? (n : Nat) (exponent : Int) : Option Size64 := do
  let a ← ofNat? n
  if exponent < 0 then a.overTens? exponent.natAbs else a.timesTens? exponent.toNat

end Size64

end FleetHealth
