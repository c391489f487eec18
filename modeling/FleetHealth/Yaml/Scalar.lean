import FleetHealth.Json.Numeral
import FleetHealth.Number.Decimal
/-!
YAML scalars: how a text has to be written so that it is read back as the same text. A text with
line feeds becomes a literal block, a text that would be read as something else is put between
single quotes, and any other text is written plainly. Where the characters of the text do not
permit the form, the next stricter one is taken, up to double quotes with escapes.
-/

namespace FleetHealth.Yaml

open Text

def nullWords : List String := ["null", "Null", "NULL", "~"]

def boolWords : List String := ["true", "True", "TRUE", "false", "False", "FALSE"]

def specialFloats : List String :=
  [".inf", ".Inf", ".INF", "-.inf", "-.Inf", "-.INF", "+.inf", "+.Inf", "+.INF",
   ".nan", ".NaN", ".NAN"]

def ofBase? (base : Nat) (ds : List Char) : Option Nat :=
  if ds.isEmpty then none
  else ds.foldlM (fun n d => do
    let v ← if d.isDigit then some (d.toNat - 48)
      else if 'a' ≤ d ∧ d ≤ 'f' then some (d.toNat - 87)
      else if 'A' ≤ d ∧ d ≤ 'F' then some (d.toNat - 55)
      else none
    if v < base then some (n * base + v) else none) 0

def splitSign : List Char → Option Char × List Char
  | '+' :: cs => (some '+', cs)
  | '-' :: cs => (some '-', cs)
  | cs => (none, cs)

/-- Integers are read up to 128 bits, with a sign or without. -/
def fitsInteger (sign : Option Char) (n : Nat) : Bool :=
  if sign = some '-' then 2 * n ≤ wideLimit else n < wideLimit

def basedValue? : List Char → Option Nat
  | '0' :: 'x' :: ds => ofBase? 16 ds
  | '0' :: 'o' :: ds => ofBase? 8 ds
  | '0' :: 'b' :: ds => ofBase? 2 ds
  | _ => none

def isBasedInteger (cs : List Char) : Bool :=
  let (sign, ds) := splitSign cs
  (basedValue? ds).any (fitsInteger sign)

/-- Digits with a needless zero in front, which are no number. -/
def isPaddedDigits (cs : List Char) : Bool :=
  let ds := (splitSign cs).2
  1 < ds.length && ds.head? == some '0' && ds.all Char.isDigit

/-- A decimal number: digits with at most one point among them, and an optional exponent. -/
def scanDecimal : Scan Decimal := do
  let whole ← Scan.run Char.isDigit
  let fraction ← if ← Scan.tryLiteral '.' then Scan.run Char.isDigit else pure []
  if whole.isEmpty && fraction.isEmpty then Scan.refuse
  let (negative, exponent) ← Json.Numeral.scanExponent
  return {
    digits := ofDigits (whole ++ fraction)
    exponent := (if negative then -1 else 1) * (ofDigits exponent : Int) - fraction.length }

def isDecimal (cs : List Char) : Bool :=
  (scanDecimal.whole? (splitSign cs).2).any fun d => !d.isTooLarge

/-- A plain text that would not be read as text. -/
def isAmbiguous (s : String) : Bool :=
  s.isEmpty || nullWords.contains s || boolWords.contains s || specialFloats.contains s
    || isPaddedDigits s.toList || isBasedInteger s.toList || isDecimal s.toList

def isPrintable (c : Char) : Bool :=
  let n := c.toNat
  n = 0x0A || (0x20 ≤ n && n ≤ 0x7E) || (0xA0 ≤ n && n ≤ 0xD7FF)
    || (0xE000 ≤ n && n ≤ 0xFFFD && n != 0xFEFF) || 0x10000 ≤ n

def isBreak (c : Char) : Bool :=
  c == '\n' || c == '\r' || c == '\u0085' || c == '\u2028' || c == '\u2029'

def endsWord : List Char → Bool
  | [] => true
  | c :: _ => c == ' ' || c == '\t' || c == '\x00' || isBreak c

/-- Characters that have a meaning of their own at the beginning of a plain text. -/
def startIndicators : List Char :=
  ['#', ',', '[', ']', '\x7b', '\x7d', '&', '*', '!', '|', '>', '\'', '"', '%', '@', '\x60']

def startsLikeMarkup : List Char → Bool
  | '-' :: '-' :: '-' :: _ | '.' :: '.' :: '.' :: _ => true
  | c :: cs => startIndicators.contains c || ((c == '?' || c == ':' || c == '-') && endsWord cs)
  | [] => false

def hasInnerMarkup : List Char → Bool
  | c :: d :: cs =>
    (d == ':' && endsWord cs) || (d == '#' && endsWord [c]) || hasInnerMarkup (d :: cs)
  | _ => false

def hasPair (p q : Char → Bool) : List Char → Bool
  | c :: d :: cs => (p c && q d) || hasPair p q (d :: cs)
  | _ => false

def isSpace (c : Char) : Bool := c == ' '

def needsEscapes (cs : List Char) : Bool :=
  hasPair isSpace isBreak cs || !cs.all isPrintable

def permitsPlain (cs : List Char) : Bool :=
  !cs.head?.any isSpace && !cs.getLast?.any isSpace && !cs.any isBreak && !needsEscapes cs
    && !startsLikeMarkup cs && !hasInnerMarkup cs

def permitsSingleQuotes (cs : List Char) : Bool := !needsEscapes cs && !hasPair isBreak isSpace cs

def permitsLiteral (cs : List Char) : Bool := !needsEscapes cs && !cs.getLast?.any isSpace

inductive Style where
  | plain
  | single
  | double
  | literal
  deriving DecidableEq

def styleOf (s : String) : Style :=
  let cs := s.toList
  if cs.contains '\n' then if permitsLiteral cs then .literal else .double
  else if !isAmbiguous s && permitsPlain cs then .plain
  else if permitsSingleQuotes cs then .single
  else .double

def spaces (n : Nat) : String := String.ofList (List.replicate n ' ')

def indented (indent : Nat) (write : Char → List Char) : Bool → List Char → List Char
  | _, [] => []
  | afterBreak, c :: cs =>
    if isBreak c then c :: indented indent write true cs
    else (if afterBreak then List.replicate indent ' ' else []) ++ write c
      ++ indented indent write false cs

def singleQuoted (indent : Nat) (cs : List Char) : String :=
  let body := indented indent (fun c => if c = '\'' then ['\'', '\''] else [c]) false cs
  "'" ++ String.ofList body ++ (if cs.getLast?.any isBreak then spaces indent else "") ++ "'"

def escapeLetter? (n : Nat) : Option Char :=
  [(0x00, '0'), (0x07, 'a'), (0x08, 'b'), (0x09, 't'), (0x0A, 'n'), (0x0B, 'v'), (0x0C, 'f'),
   (0x0D, 'r'), (0x1B, 'e'), (0x22, '"'), (0x5C, '\\'), (0x85, 'N'), (0xA0, '_'), (0x2028, 'L'),
   (0x2029, 'P')].lookup n

def hex (width n : Nat) : List Char :=
  let ds := (Nat.toDigits 16 n).map Char.toUpper
  List.replicate (width - ds.length) '0' ++ ds

def escape (c : Char) : List Char :=
  let n := c.toNat
  '\\' :: match escapeLetter? n with
    | some l => [l]
    | none =>
      if n ≤ 0xFF then 'x' :: hex 2 n else if n ≤ 0xFFFF then 'u' :: hex 4 n else 'U' :: hex 8 n

def doubleQuoted (cs : List Char) : String :=
  String.ofList ('"' :: cs.flatMap (fun c =>
    if !isPrintable c || isBreak c || c == '"' || c == '\\' then escape c else [c]) ++ ['"'])

/-- Whether breaks at the end of a literal block are more than one, or all there is. -/
def isOpenEnded (cs : List Char) : Bool :=
  match cs.reverse with
  | [c] => isBreak c
  | c :: d :: _ => isBreak c && isBreak d
  | [] => false

/-- What a literal block says about its indentation and about the breaks at its end. -/
def literalHints (cs : List Char) : String :=
  (if cs.head?.any (fun c => isSpace c || isBreak c) then "2" else "")
    ++ (if !cs.getLast?.any isBreak then "-" else if isOpenEnded cs then "+" else "")

def literal (indent : Nat) (cs : List Char) : String :=
  "|" ++ literalHints cs ++ "\n" ++ String.ofList (indented indent (fun c => [c]) true cs)

def scalar (indent : Nat) (s : String) : String :=
  match styleOf s with
  | .plain => s
  | .single => singleQuoted indent s.toList
  | .double => doubleQuoted s.toList
  | .literal => literal indent s.toList

end FleetHealth.Yaml
