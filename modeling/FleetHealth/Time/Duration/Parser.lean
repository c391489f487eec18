import FleetHealth.Text.Blank
import FleetHealth.Text.Numeral
import FleetHealth.Text.Quoted
import FleetHealth.Time.Duration
/-!
Duration texts, such as `300s`, `1h30m` or `1.5h`: an optional plus sign, then either a bare `0` or
one or more terms, each a decimal number directly followed by its unit. Blanks around the text do
not count. A number keeps at most eighteen digits after its point, each term is rounded down to the
nanosecond, and every intermediate value has to fit into 128 bits.
-/

namespace FleetHealth.Duration

open Text

inductive Fault where
  | empty
  | negative
  | malformed
  | missingUnit
  | unknownUnit (unit : String)
  | outOfRange
  deriving DecidableEq, Repr

def Fault.message (input : String) (fault : Fault) : String :=
  let text := String.ofList (trim input.toList)
  match fault with
  | .empty => "empty duration"
  | .negative => "negative duration: " ++ text
  | .malformed => "invalid duration: " ++ text
  | .missingUnit => "missing unit in duration: " ++ text
  | .unknownUnit unit => "unknown unit " ++ quote unit ++ " in duration: " ++ text
  | .outOfRange => "duration out of range: " ++ text

/-- The units of terms with their nanoseconds. Microseconds may be written with either mu. -/
def unitScales : List (List Char × Nat) :=
  [(['n', 's'], 1), (['u', 's'], 1000), (['\u00b5', 's'], 1000), (['\u03bc', 's'], 1000),
   (['m', 's'], 1000000), (['s'], 1000000000), (['m'], 60000000000), (['h'], 3600000000000)]

def unitScale? (unit : List Char) : Option Nat := unitScales.lookup unit

def fractionDigits : Nat := 18

def narrow (n : Nat) : Except Fault Nat :=
  if n < wideLimit then .ok n else .error .outOfRange

structure Term where
  whole : List Char
  fraction : List Char
  unit : List Char
  deriving DecidableEq, Repr

def isUnitEnd (c : Char) : Bool := c.isDigit || c == '.'

def splitFraction : List Char → List Char × List Char
  | '.' :: cs => (cs.takeWhile Char.isDigit, cs.dropWhile Char.isDigit)
  | cs => ([], cs)

/-- The first term of a text and what follows it. A unit reaches to the next digit or point. -/
def splitTerm (cs : List Char) : Term × List Char :=
  let (fraction, rest) := splitFraction (cs.dropWhile Char.isDigit)
  ({ whole := cs.takeWhile Char.isDigit
     fraction
     unit := rest.takeWhile (!isUnitEnd ·) },
   rest.dropWhile (!isUnitEnd ·))

def fractionNanos (fraction : List Char) (scale : Nat) : Nat :=
  let digits := fraction.take fractionDigits
  ofDigits digits * scale / tenTo digits.length

/-- The nanoseconds of a term. A number that is missing is noticed before the unit is looked at,
the unit before the size of the number. -/
def Term.nanos (t : Term) : Except Fault Nat := do
  if t.whole = [] ∧ t.fraction = [] then throw .malformed
  if t.unit = [] then throw .missingUnit
  let some scale := unitScale? t.unit | throw (.unknownUnit (String.ofList t.unit))
  if wideLimit ≤ ofDigits t.whole then throw .malformed
  let whole ← narrow (ofDigits t.whole * scale)
  narrow (whole + fractionNanos t.fraction scale)

theorem length_splitFraction_le (cs : List Char) : (splitFraction cs).2.length ≤ cs.length := by
  unfold splitFraction
  split
  · exact Nat.le_succ_of_le (List.dropWhile_sublist _).length_le
  · exact Nat.le_refl _

theorem length_splitTerm_lt {cs : List Char}
    (h : ¬((splitTerm cs).1.whole = [] ∧ (splitTerm cs).1.fraction = [])) :
    (splitTerm cs).2.length < cs.length := by
  have unitLe := (List.dropWhile_sublist (!isUnitEnd ·)
    (l := (splitFraction (cs.dropWhile Char.isDigit)).2)).length_le
  have fractionLe := length_splitFraction_le (cs.dropWhile Char.isDigit)
  have split := congrArg List.length (List.takeWhile_append_dropWhile (p := Char.isDigit) (l := cs))
  simp only [List.length_append] at split
  simp only [splitTerm] at h ⊢
  by_cases hw : cs.takeWhile Char.isDigit = []
  · -- Without digits in front there has to be a point, which is taken.
    simp only [hw, true_and] at h
    have hd : cs.dropWhile Char.isDigit = cs := by
      have := List.takeWhile_append_dropWhile (p := Char.isDigit) (l := cs)
      simpa [hw] using this
    rw [hd] at h unitLe ⊢
    unfold splitFraction at h unitLe ⊢
    split at h
    · rename_i rest
      have := (List.dropWhile_sublist Char.isDigit (l := rest)).length_le
      simp only [List.length_cons] at unitLe ⊢
      omega
    · exact absurd rfl h
  · have : 0 < (cs.takeWhile Char.isDigit).length := List.length_pos_iff.mpr hw
    omega

def sumTerms (total : Nat) (cs : List Char) : Except Fault Nat :=
  if cs = [] then .ok total
  else if _ : (splitTerm cs).1.whole = [] ∧ (splitTerm cs).1.fraction = [] then .error .malformed
  else do
    let nanos ← (splitTerm cs).1.nanos
    let total ← narrow (total + nanos)
    sumTerms total (splitTerm cs).2
termination_by cs.length
decreasing_by exact length_splitTerm_lt (by assumption)

def unsignedNanos (cs : List Char) : Except Fault Nat :=
  if cs = ['0'] then .ok 0 else sumTerms 0 cs

def dropPlus : List Char → List Char
  | '+' :: cs => cs
  | cs => cs

def parseChars (input : List Char) : Except Fault Duration := do
  let text := trim input
  if text = [] then throw .empty
  if text.head? = some '-' then throw .negative
  let nanos ← unsignedNanos (dropPlus text)
  match ofNanos? nanos with
  | some d => return d
  | none => throw .outOfRange

def parse (input : String) : Except Fault Duration := parseChars input.toList

end FleetHealth.Duration
