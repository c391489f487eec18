import FleetHealth.Text.Split
/-!
The targets of requests: a path with an optional query and an optional fragment, a full address
with a scheme and an authority in front of it, an authority alone, or a star. Only the path
matters here; for the rest it is checked that it is well formed.
-/

namespace FleetHealth.Http.Uri

open Text

/-- How long a target can be, in bytes. -/
def maxLength : Nat := 65534

def isTooLong (target : String) : Bool := maxLength < target.utf8ByteSize

inductive Alphabet where
  | ascii
  | unicode
  deriving DecidableEq

def Alphabet.admits (a : Alphabet) (c : Char) : Bool := a = .unicode && 0x80 ≤ c.toNat

def isPathChar (a : Alphabet) (c : Char) : Bool :=
  let n := c.toNat
  n = 0x21 || n = 0x22 || (0x24 ≤ n && n ≤ 0x3B) || n = 0x3D || (0x40 ≤ n && n ≤ 0x5F)
    || (0x61 ≤ n && n ≤ 0x7E) || a.admits c

def isQueryChar (a : Alphabet) (c : Char) : Bool :=
  let n := c.toNat
  n = 0x21 || (0x24 ≤ n && n ≤ 0x3B) || n = 0x3D || (0x3F ≤ n && n ≤ 0x7E) || a.admits c

def withoutFragment (cs : List Char) : List Char := cs.takeWhile (· != '#')

def splitQuery (cs : List Char) : List Char × List Char :=
  let target := withoutFragment cs
  (target.takeWhile (· != '?'), (target.dropWhile (· != '?')).drop 1)

def isPermitted (a : Alphabet) (cs : List Char) : Bool :=
  let (path, query) := splitQuery cs
  path.all (isPathChar a) && query.all (isQueryChar a)

/-- The path in front of a query and a fragment, which is a slash if it is empty. -/
def pathOf? (a : Alphabet) (cs : List Char) : Option (List Char) :=
  let path := (splitQuery cs).1
  if isPermitted a cs then some (if path.isEmpty then ['/'] else path) else none

def isAuthorityChar (c : Char) : Bool := c.isAlphanum || "!$&'()*+,-.;=_~".toList.contains c

def isAuthorityEnd (c : Char) : Bool := c == '/' || c == '?' || c == '#'

/-- What is known of an authority that is read: a user in front of an at sign, a host, which may be
in brackets, and a port after a colon. -/
structure Authority where
  /-- The colons since the user or the brackets ended. -/
  colons : Nat
  isOpened : Bool
  isClosed : Bool
  /-- Whether there was a percent sign since then. -/
  hasPercent : Bool
  endsInAt : Bool

namespace Authority

def empty : Authority where
  colons := 0
  isOpened := false
  isClosed := false
  hasPercent := false
  endsInAt := false

/-- As many colons as an address in brackets has. -/
def maxColons : Nat := 8

def step (a : Authority) (c : Char) : Option Authority :=
  let a := { a with endsInAt := c == '@' }
  if c = ':' then if a.colons < maxColons then some { a with colons := a.colons + 1 } else none
  else if c = '[' then
    if a.hasPercent || a.isOpened then none else some { a with isOpened := true }
  else if c = ']' then
    if !a.isOpened || a.isClosed then none
    else some { a with isClosed := true, colons := 0, hasPercent := false }
  else if c = '@' then some { a with colons := 0, hasPercent := false }
  else if c = '%' then some { a with hasPercent := true }
  else if isAuthorityChar c then some a
  else none

def isComplete (a : Authority) : Bool :=
  a.isOpened == a.isClosed && a.colons ≤ 1 && !a.endsInAt && !a.hasPercent

end Authority

def isAuthority (cs : List Char) : Bool :=
  !cs.isEmpty && (cs.foldlM Authority.step .empty).any Authority.isComplete

def isSchemeChar (c : Char) : Bool := c.isAlphanum || c == '+' || c == '-' || c == '.' || c == '~'

def maxScheme : Nat := 64

def splitScheme? (cs : List Char) : Option (List Char × List Char) :=
  match cs.dropWhile isSchemeChar with
  | ':' :: '/' :: '/' :: rest => some (cs.takeWhile isSchemeChar, rest)
  | _ => none

def addressPath? (a : Alphabet) (cs : List Char) : Option (List Char) :=
  match splitScheme? cs with
  | some (scheme, rest) =>
    if scheme.length ≤ maxScheme && isAuthority (rest.takeWhile (!isAuthorityEnd ·)) then
      pathOf? a (rest.dropWhile (!isAuthorityEnd ·))
    else none
  | none => if isAuthority cs then some [] else none

def path? (a : Alphabet) (target : String) : Option (List Char) :=
  if isTooLong target then none
  else match target.toList with
    | [] => none
    | ['*'] => some ['*']
    | '/' :: cs => pathOf? a ('/' :: cs)
    | cs => addressPath? a cs

end FleetHealth.Http.Uri
