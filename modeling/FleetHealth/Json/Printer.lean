import FleetHealth.Json.Basic
import FleetHealth.Number.Binary64.Shortest

namespace FleetHealth.Json

def shortEscape? : Char → Option Char
  | '"' => some '"'
  | '\\' => some '\\'
  | '\x08' => some 'b'
  | '\x0c' => some 'f'
  | '\n' => some 'n'
  | '\r' => some 'r'
  | '\t' => some 't'
  | _ => none

/-- Control characters without a letter of their own are written in hexadecimal. -/
def escapeChar (c : Char) : List Char :=
  match shortEscape? c with
  | some l => ['\\', l]
  | none =>
    if c.toNat < 32 then
      ['\\', 'u', '0', '0', Nat.digitChar (c.toNat / 16), Nat.digitChar (c.toNat % 16)]
    else [c]

def quoted (s : String) : String :=
  String.ofList ('"' :: s.toList.flatMap escapeChar ++ ['"'])

def zeros (n : Nat) : String := String.ofList (List.replicate n '0')

/-- The exponents of the first digit for which a number is written without a power of ten. -/
def isPlainExponent (e : Int) : Bool := -5 ≤ e && e ≤ 15

/-- A point after some of the digits, and at least one digit on either side of it. -/
def pointed (places : Nat) (ds : List Char) : String :=
  String.ofList (ds.take places) ++ "." ++
    if ds.length ≤ places then "0" else String.ofList (ds.drop places)

def plainText (ds : List Char) (e : Int) : String :=
  if e < 0 then "0." ++ zeros (e.natAbs - 1) ++ String.ofList ds
  else pointed (e.toNat + 1) (ds ++ List.replicate (e.toNat + 1 - ds.length) '0')

def scientificText (ds : List Char) (e : Int) : String :=
  (if ds.length ≤ 1 then String.ofList ds else pointed 1 ds)
    ++ (if e < 0 then "e-" else "e+") ++ toString e.natAbs

/-- The shortest numeral that is read as the number. -/
def realText (x : Binary64) : String :=
  let d := x.size.shortest
  let ds := (toString d.digits).toList
  let e := d.exponent + (ds.length - 1 : Nat)
  (if x.negative then "-" else "")
    ++ if isPlainExponent e then plainText ds e else scientificText ds e

def scalarText : Json → String
  | bool true => "true"
  | bool false => "false"
  | int n => toString n
  | real x => realText x
  | str s => quoted s
  | _ => "null"

mutual

def compress : Json → String
  | arr elements => "[" ++ ",".intercalate (compressElements elements) ++ "]"
  | obj fields => "\x7b" ++ ",".intercalate (compressFields fields) ++ "\x7d"
  | v => scalarText v

def compressElements : List Json → List String
  | [] => []
  | v :: vs => compress v :: compressElements vs

def compressFields : List (String × Json) → List String
  | [] => []
  | (k, v) :: fields => (quoted k ++ ":" ++ compress v) :: compressFields fields

end

def lineBreak (level : Nat) : String :=
  "\n" ++ String.ofList (List.replicate (2 * level) ' ')

def block (level : Nat) (opening closing : String) (items : List String) : String :=
  if items.isEmpty then opening ++ closing
  else
    opening ++ ",".intercalate (items.map (lineBreak (level + 1) ++ ·)) ++ lineBreak level
      ++ closing

mutual

def indentAt (level : Nat) : Json → String
  | arr elements => block level "[" "]" (indentElements (level + 1) elements)
  | obj fields => block level "\x7b" "\x7d" (indentFields (level + 1) fields)
  | v => scalarText v

def indentElements (level : Nat) : List Json → List String
  | [] => []
  | v :: vs => indentAt level v :: indentElements level vs

def indentFields (level : Nat) : List (String × Json) → List String
  | [] => []
  | (k, v) :: fields => (quoted k ++ ": " ++ indentAt level v) :: indentFields level fields

end

def indent (v : Json) : String := indentAt 0 v

end FleetHealth.Json
