import FleetHealth.Text.Numeral
import FleetHealth.Text.Scan
/-!
Addresses of services: an internet address and a port, such as `127.0.0.1:80` and `[::1]:80`. Long
addresses are written with lower-case digits, and the first of the longest runs of zero groups is
left out.
-/

namespace FleetHealth

open Text

inductive IpAddress where
  | v4 (octets : Vector UInt8 4)
  | v6 (groups : Vector UInt16 8) (scope : UInt32)
  deriving DecidableEq

structure SocketAddress where
  ip : IpAddress
  port : UInt16
  deriving DecidableEq

namespace IpAddress

def scanOctet : Scan UInt8 := do
  let ds ← Scan.digits
  if ds.length ≤ 3 ∧ (ds.length = 1 ∨ ds.head? ≠ some '0') ∧ ofDigits ds < 256 then
    return UInt8.ofNat (ofDigits ds)
  else Scan.refuse

def scanNextOctet : Scan UInt8 := do
  Scan.literal '.'
  scanOctet

def scanOctets : Scan (Vector UInt8 4) := do
  return #v[← scanOctet, ← scanNextOctet, ← scanNextOctet, ← scanNextOctet]

def scanGroup : Scan UInt16 := do
  let ds ← Scan.run fun c => (hexValue? c).isSome
  if ds.isEmpty ∨ 4 < ds.length then Scan.refuse else return UInt16.ofNat (ofHexDigits ds)

def scanOctetGroups : Scan (List UInt16) := do
  let o ← scanOctets
  let pair (high low : UInt8) := UInt16.ofNat (256 * high.toNat + low.toNat)
  return [pair o[0] o[1], pair o[2] o[3]]

def scanColon (first : Bool) : Scan Unit := if first then return () else Scan.literal ':'

/-- As many groups as there are, up to a number of them, of which the last two may be written as
octets. Says whether they were. -/
def scanGroups (first : Bool) : Nat → Scan (List UInt16 × Bool)
  | 0 => return ([], false)
  | 1 => (do scanColon first; return ([← scanGroup], false)) <|> return ([], false)
  | n + 2 =>
    (do scanColon first; return (← scanOctetGroups, true))
    <|> (do
      scanColon first
      let group ← scanGroup
      let (groups, octets) ← scanGroups false (n + 1)
      return (group :: groups, octets))
    <|> return ([], false)

def ofGroups (groups : List UInt16) : Scan (Vector UInt16 8) :=
  if h : groups.length = 8 then return ⟨groups.toArray, by simpa using h⟩ else Scan.refuse

/-- Eight groups, or two colons in place of at least one group of zeros. -/
def scanAddress : Scan (Vector UInt16 8) := do
  let (front, octets) ← scanGroups true 8
  if front.length = 8 then ofGroups front
  else if octets then Scan.refuse
  else
    Scan.literal ':'
    Scan.literal ':'
    let (back, _) ← scanGroups true (7 - front.length)
    ofGroups (front ++ List.replicate (8 - front.length - back.length) 0 ++ back)

def scanBelow (bound : Nat) : Scan Nat := do
  let n := ofDigits (← Scan.digits)
  if n < bound then return n else Scan.refuse

def scanScope : Scan UInt32 := do
  if ← Scan.tryLiteral '%' then return UInt32.ofNat (← scanBelow 0x100000000) else return 0

def scanBracketed : Scan IpAddress := do
  Scan.literal '['
  let groups ← scanAddress
  let scope ← scanScope
  Scan.literal ']'
  return v6 groups scope

def octetText (octets : List UInt8) : String :=
  ".".intercalate (octets.map fun o => toString o.toNat)

def groupText (group : UInt16) : String := String.ofList (Nat.toDigits 16 group.toNat)

def groupTexts (groups : List UInt16) : String := ":".intercalate (groups.map groupText)

/-- The octets of an address that is one of four octets in disguise. -/
def octetsOf? : List UInt16 → Option (List UInt8)
  | [0, 0, 0, 0, 0, 0xFFFF, g, h] =>
    some [(g / 256).toUInt8, g.toUInt8, (h / 256).toUInt8, h.toUInt8]
  | _ => none

def zeroRun (groups : List UInt16) : Nat := (groups.takeWhile (· == 0)).length

/-- Where the first of the longest runs of zeros begins, and how long it is. -/
def longestZeroRun : List UInt16 → Nat × Nat
  | [] => (0, 0)
  | g :: groups =>
    let (start, length) := longestZeroRun groups
    if length ≤ zeroRun (g :: groups) then (0, zeroRun (g :: groups)) else (start + 1, length)

def addressText (groups : List UInt16) : String :=
  match octetsOf? groups with
  | some octets => "::ffff:" ++ octetText octets
  | none =>
    let (start, length) := longestZeroRun groups
    if length ≤ 1 then groupTexts groups
    else groupTexts (groups.take start) ++ "::" ++ groupTexts (groups.drop (start + length))

def text : IpAddress → String
  | v4 octets => octetText octets.toList
  | v6 groups scope =>
    "[" ++ addressText groups.toList ++ (if scope = 0 then "" else "%" ++ toString scope.toNat) ++ "]"

end IpAddress

namespace SocketAddress

def scanPort : Scan UInt16 := do
  Scan.literal ':'
  return UInt16.ofNat (← IpAddress.scanBelow 0x10000)

def scan : Scan SocketAddress :=
  (do return { ip := .v4 (← IpAddress.scanOctets), port := ← scanPort })
  <|> (do return { ip := ← IpAddress.scanBracketed, port := ← scanPort })

def parse? (s : String) : Option SocketAddress := Scan.whole? scan s.toList

def text (a : SocketAddress) : String := a.ip.text ++ ":" ++ toString a.port.toNat

end SocketAddress

end FleetHealth
