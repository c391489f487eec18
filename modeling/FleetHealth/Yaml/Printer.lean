import FleetHealth.Json.Printer
import FleetHealth.Yaml.Scalar
/-!
YAML documents in block form: one line for each field of a mapping and each item of a sequence. A
sequence that is the value of a field is not indented further than the field.
-/

namespace FleetHealth.Yaml

/-- Begins a new line with an indentation. A literal block may have ended its line already. -/
def newLine (before : String) (indent : Nat) : String :=
  (if before.back?.any isBreak then before else before ++ "\n") ++ spaces indent

def stack (indent : Nat) : List String → String
  | [] => ""
  | item :: items => items.foldl (fun text item => newLine text indent ++ item) item

mutual

def node (indent : Nat) : Json → String
  | .arr (v :: vs) => stack indent (items indent (v :: vs))
  | .obj (f :: fs) => stack indent (fields indent (f :: fs))
  | .arr [] => "[]"
  | .obj [] => "\x7b\x7d"
  | .str s => scalar indent s
  | v => v.scalarText

def items (indent : Nat) : List Json → List String
  | [] => []
  | v :: vs => ("- " ++ node (indent + 2) v) :: items indent vs

def fields (indent : Nat) : List (String × Json) → List String
  | [] => []
  | (k, v) :: fs => (scalar indent k ++ ":" ++ value indent v) :: fields indent fs

def value (indent : Nat) : Json → String
  | .arr (v :: vs) => newLine "" indent ++ stack indent (items indent (v :: vs))
  | .obj (f :: fs) => newLine "" (indent + 2) ++ stack (indent + 2) (fields (indent + 2) (f :: fs))
  | .arr [] => " []"
  | .obj [] => " \x7b\x7d"
  | .str s => " " ++ scalar (indent + 2) s
  | v => " " ++ v.scalarText

end

def render (v : Json) : String := newLine (node 0 v) 0

end FleetHealth.Yaml
