import FleetHealth.Json.Token

namespace FleetHealth.Json

/-- A container that is still open, with what it holds so far, last one first. An object with a
broken name holds nothing. -/
inductive Open where
  | array (elements : List RawJson)
  | object (fields : Option RawJson.Fields) (name : Option String)

inductive Expected where
  | value
  | firstElement
  | name
  | firstName
  | colon
  | separator
  | nothing (result : RawJson)

structure Parser where
  stack : List Open
  depth : Nat
  expected : Expected

namespace Parser

def maxDepth : Nat := 127

def start : Parser := { stack := [], depth := 0, expected := .value }

def complete (p : Parser) (v : RawJson) : Parser :=
  match p.stack with
  | [] => { p with expected := .nothing v }
  | .array elements :: stack =>
    { p with stack := .array (v :: elements) :: stack, expected := .separator }
  | .object fields name :: stack =>
    let fields := do return (← name, v) :: (← fields)
    { p with stack := .object fields name :: stack, expected := .separator }

def enter (p : Parser) (container : Open) (expected : Expected) : Parser :=
  { stack := container :: p.stack, depth := p.depth + 1, expected }

def leave (p : Parser) (v : RawJson) : Parser :=
  { p with stack := p.stack.tail, depth := p.depth - 1 }.complete
    (if p.depth ≤ maxDepth then v else .void)

def beginValue (p : Parser) : Token → Option Parser
  | .scalar v => some (p.complete v)
  | .text s => some (p.complete (s.elim .void .str))
  | .openArray => some (p.enter (.array []) .firstElement)
  | .openObject => some (p.enter (.object (some []) none) .firstName)
  | _ => none

def close (p : Parser) (t : Token) : Option Parser :=
  match t, p.stack with
  | .closeArray, .array elements :: _ => some (p.leave (.arr elements.reverse))
  | .closeObject, .object fields _ :: _ =>
    some (p.leave (fields.elim .void fun fields => .obj fields.reverse))
  | _, _ => none

def setName (p : Parser) (name : Option String) : Option Parser :=
  match p.stack with
  | .object fields _ :: stack =>
    some { p with stack := .object fields name :: stack, expected := .colon }
  | _ => none

def next (p : Parser) : Option Parser :=
  match p.stack with
  | .array _ :: _ => some { p with expected := .value }
  | .object .. :: _ => some { p with expected := .name }
  | [] => none

def step (p : Parser) (t : Token) : Option Parser :=
  match p.expected, t with
  | .value, t => p.beginValue t
  | .firstElement, .closeArray => p.close t
  | .firstElement, t => p.beginValue t
  | .firstName, .closeObject => p.close t
  | .firstName, .text name | .name, .text name => p.setName name
  | .colon, .colon => some { p with expected := .value }
  | .separator, .comma => p.next
  | .separator, t => p.close t
  | _, _ => none

def finish (p : Parser) : Option RawJson :=
  match p.expected with
  | .nothing v => some v
  | _ => none

end Parser

def raw? (s : String) : Option RawJson := do
  let tokens ← Token.ofChars? s.toList
  (← tokens.foldlM Parser.step Parser.start).finish

def parse? (s : String) : Option Json := raw? s >>= RawJson.value?

end FleetHealth.Json
