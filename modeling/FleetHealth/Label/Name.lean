import FleetHealth.Text.Split
import FleetHealth.Text.Quoted
/-!
Which texts can be the key or the value of a label. A key is a name, with an optional domain and a
slash in front of it; a value is empty or has the form of a name.
-/

namespace FleetHealth.Label

open Text

def isNameEnd (c : Char) : Bool := c.isAlphanum

def isNameChar (c : Char) : Bool := isNameEnd c || c == '-' || c == '_' || c == '.'

def isDomainEnd (c : Char) : Bool := c.isLower || c.isDigit

def isDomainChar (c : Char) : Bool := isDomainEnd c || c == '-'

def isFramed (inside ends : Char → Bool) (cs : List Char) : Bool :=
  cs.head?.any ends && cs.getLast?.any ends && cs.all inside

def maxName : Nat := 63

def maxDomain : Nat := 253

/-- The form of names, which is also the form of values that are not empty. -/
def isName (cs : List Char) : Bool := cs.length ≤ maxName && isFramed isNameChar isNameEnd cs

def isDomain (cs : List Char) : Bool :=
  cs.length ≤ maxDomain && (splitAll '.' cs).all (isFramed isDomainChar isDomainEnd)

def isValue (s : String) : Bool := s.isEmpty || isName s.toList

inductive KeyFault where
  | domain
  | name
  deriving DecidableEq, Repr

/-- What is wrong with a key. The domain ends at the first slash and is looked at first. -/
def keyFault? (key : String) : Option KeyFault :=
  let domain := (splitFirst? '/' key.toList).map Prod.fst
  let name := ((splitFirst? '/' key.toList).map Prod.snd).getD key.toList
  if domain.any (!isDomain ·) then some .domain
  else if !isName name then some .name
  else none

end FleetHealth.Label
