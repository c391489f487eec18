import FleetHealth.Text.Numeral

namespace FleetHealth.Text

def hexByte? (c d : Char) : Option UInt8 := do
  return UInt8.ofNat (16 * (← hexValue? c) + (← hexValue? d))

def utf8 (c : Char) : List UInt8 := (String.singleton c).toUTF8.toList

/-- The bytes of a text. A percent sign without two digits behind it stands for itself. -/
def percentBytes : List Char → List UInt8
  | '%' :: c :: d :: cs => match hexByte? c d with
    | some b => b :: percentBytes cs
    | none => utf8 '%' ++ percentBytes (c :: d :: cs)
  | c :: cs => utf8 c ++ percentBytes cs
  | [] => []

def percentDecode? (cs : List Char) : Option String :=
  String.fromUTF8? ⟨(percentBytes cs).toArray⟩

def percentByte (b : UInt8) : List Char :=
  ['%', (Nat.digitChar (b.toNat / 16)).toUpper, (Nat.digitChar (b.toNat % 16)).toUpper]

def isFormChar (c : Char) : Bool := c.isAlphanum || c == '*' || c == '-' || c == '.' || c == '_'

/-- A text as the value of a form's field: blanks as plus signs, and all other special characters
percent-encoded. -/
def formEncode (s : String) : String :=
  String.ofList (s.toList.flatMap fun c =>
    if c = ' ' then ['+'] else if isFormChar c then [c] else (utf8 c).flatMap percentByte)

end FleetHealth.Text
