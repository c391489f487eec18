import FleetHealth.Json.Numeral

namespace FleetHealth.Json

open Text

inductive Token where
  | openArray
  | closeArray
  | openObject
  | closeObject
  | comma
  | colon
  /-- A quoted text, unless it has half of a character in it. -/
  | text (s : Option String)
  | scalar (v : RawJson)

structure Token.Quoted where
  /-- The characters so far, last one first, unless there was half of one alone. -/
  chars : Option (List Char)
  /-- The first half of a character whose second half may follow. -/
  half : Option Nat

inductive Token.Mode where
  | between
  | word (soFar : List Char)
  | text (soFar : Quoted)
  | escape (soFar : Quoted)
  | code (soFar : Quoted) (digits : List Char)

/-- The tokens read so far, last one first, and where the reader is. -/
structure Token.Reader where
  tokens : List Token
  mode : Mode

namespace Token

def isSpace (c : Char) : Bool := c == ' ' || c == '\n' || c == '\t' || c == '\r'

def isWordChar (c : Char) : Bool := c.isAlphanum || c == '-' || c == '+' || c == '.'

def mark? : Char → Option Token
  | '[' => some openArray
  | ']' => some closeArray
  | '\x7b' => some openObject
  | '\x7d' => some closeObject
  | ',' => some comma
  | ':' => some colon
  | _ => none

def ofWord? (word : List Char) : Option Token :=
  if word = ['n', 'u', 'l', 'l'] then some (scalar .null)
  else if word = ['t', 'r', 'u', 'e'] then some (scalar (.bool true))
  else if word = ['f', 'a', 'l', 's', 'e'] then some (scalar (.bool false))
  else (Numeral.scan.whole? word).map fun n => scalar n.read

def unescape? : Char → Option Char
  | '"' => some '"'
  | '\\' => some '\\'
  | '/' => some '/'
  | 'b' => some '\x08'
  | 'f' => some '\x0c'
  | 'n' => some '\n'
  | 'r' => some '\r'
  | 't' => some '\t'
  | _ => none

def ofHex? (ds : List Char) : Option Nat :=
  if ds.all fun d => (hexValue? d).isSome then some (ofHexDigits ds) else none

namespace Quoted

def empty : Quoted := { chars := some [], half := none }

def broken : Quoted := { chars := none, half := none }

def push (q : Quoted) (c : Char) : Quoted :=
  if q.half.isSome then broken else { q with chars := q.chars.map (c :: ·) }

def isFirstHalf (code : Nat) : Bool := 0xD800 ≤ code && code < 0xDC00

def isSecondHalf (code : Nat) : Bool := 0xDC00 ≤ code && code < 0xE000

def join (first second : Nat) : Char :=
  Char.ofNat (0x10000 + (first - 0xD800) * 0x400 + (second - 0xDC00))

def pushCode (q : Quoted) (code : Nat) : Quoted :=
  match q.half with
  | some h =>
    if isSecondHalf code then { q with half := none }.push (join h code) else broken
  | none =>
    if isFirstHalf code then { q with half := some code }
    else if isSecondHalf code then broken
    else q.push (Char.ofNat code)

def text? (q : Quoted) : Option String :=
  if q.half.isSome then none else q.chars.map fun cs => String.ofList cs.reverse

end Quoted

namespace Reader

def start : Reader := { tokens := [], mode := .between }

def begin (r : Reader) (c : Char) : Option Reader :=
  if isSpace c then some { r with mode := .between }
  else if c = '"' then some { r with mode := .text .empty }
  else if isWordChar c then some { r with mode := .word [c] }
  else (mark? c).map fun t => { tokens := t :: r.tokens, mode := .between }

def endWord (r : Reader) (soFar : List Char) : Option Reader :=
  (ofWord? soFar.reverse).map fun t => { tokens := t :: r.tokens, mode := .between }

def stepText (r : Reader) (soFar : Quoted) (c : Char) : Option Reader :=
  if c = '\\' then some { r with mode := .escape soFar }
  else if c.toNat < 32 then none
  else if c = '"' then some { tokens := .text soFar.text? :: r.tokens, mode := .between }
  else some { r with mode := .text (soFar.push c) }

def step (r : Reader) (c : Char) : Option Reader :=
  match r.mode with
  | .between => r.begin c
  | .word soFar =>
    if isWordChar c then some { r with mode := .word (c :: soFar) }
    else (r.endWord soFar).bind (·.begin c)
  | .text soFar => r.stepText soFar c
  | .escape soFar =>
    if c = 'u' then some { r with mode := .code soFar [] }
    else (unescape? c).map fun d => { r with mode := .text (soFar.push d) }
  | .code soFar digits =>
    if digits.length < 3 then some { r with mode := .code soFar (c :: digits) }
    else (ofHex? (c :: digits).reverse).map fun code =>
      { r with mode := .text (soFar.pushCode code) }

def finish (r : Reader) : Option (List Token) :=
  match r.mode with
  | .between => some r.tokens.reverse
  | .word soFar => (r.endWord soFar).map (·.tokens.reverse)
  | _ => none

end Reader

def ofChars? (cs : List Char) : Option (List Token) :=
  cs.foldlM Reader.step Reader.start >>= Reader.finish

end Token

end FleetHealth.Json
