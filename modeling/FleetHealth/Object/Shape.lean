import FleetHealth.Json.Raw
import FleetHealth.Time.Instant.Text
/-!
Shapes of manifest parts that are carried along and never looked at. A shape says which values are
well formed and how they are written: without unknown fields and without null fields, texts that
are always written as empty ones when they are missing, and times in whole seconds.
-/

namespace FleetHealth

inductive Shape where
  | text
  | int32
  | int64
  | bool
  | time
  | opaqueValue
  | list (element : Shape)
  | map (value : Shape)
  | record (fields : List (String × Option Json × Shape))

namespace Shape

/-- A field that is left out when it is missing. -/
def field (name : String) (shape : Shape) : String × Option Json × Shape := (name, none, shape)

/-- A text that is always written. -/
def textField (name : String) : String × Option Json × Shape := (name, some (.str ""), .text)

def normalTime (s : String) : Option Json :=
  (Instant.parse? s).map fun t => .str t.renderSeconds

mutual

def normal? : Shape → RawJson → Option Json
  | .text, j => j.str?.map .str
  | .int32, j => j.int32?.map .int
  | .int64, j => j.int64?.map .int
  | .bool, j => j.bool?.map .bool
  | .time, j => j.str? >>= normalTime
  | .opaqueValue, j => j.value?
  | .list element, j => (j.list? (normal? element)).map .arr
  | .map value, j => (j.map? (normal? value)).map fun t => .obj t.toList
  | .record fields, j => (j.fields? >>= normalFields? fields).map .obj

def normalFields? : List (String × Option Json × Shape) → RawJson.Fields → Option Json.Fields
  | [], _ => some []
  | (name, always, shape) :: fields, source => do
    let value ← source.optional name (normal? shape)
    let rest ← normalFields? fields source
    return (value <|> always).toList.map (fun v => (name, v)) ++ rest

end

end Shape

end FleetHealth
