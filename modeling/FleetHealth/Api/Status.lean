import FleetHealth.Json.Raw

namespace FleetHealth.Api

open Json RawJson

structure ErrorStatus where
  status : String
  message : String
  reason : String
  code : Nat
  deriving DecidableEq

namespace ErrorStatus

def read? (j : RawJson) : Option ErrorStatus := do
  let fields ← j.record? ["status", "message", "reason", "code"] 4
  return {
    status := ← fields.required "status" str?
    message := ← fields.defaulted "message" "" str?
    reason := ← fields.defaulted "reason" "" str?
    code := ← fields.required "code" (natOfBits? 16) }

def write (s : ErrorStatus) : Json := .obj [
  ("kind", .str "Status"), ("apiVersion", .str "v1"), ("metadata", .obj []),
  ("status", .str s.status), ("message", .str s.message), ("reason", .str s.reason),
  ("code", .ofNat s.code)]

end ErrorStatus

def isStatus (j : Json) : Bool := j.field? "kind" == some (.str "Status")

/-- Nothing but whether a value decodes. -/
def form {α : Type} (f : RawJson → Option α) (j : RawJson) : Option Unit := (f j).map fun _ => ()

def summaries : List String := ["Success", "Failure"]

/-- A summary is a name, which may also be written as the only field of an object. -/
def readSummary? : RawJson → Option Unit
  | .str s | .obj [(s, .null)] => if summaries.contains s then some () else none
  | _ => none

def readCause? (j : RawJson) : Option Unit := do
  let names := ["reason", "message", "field"]
  let fields ← j.record? names 0
  names.forM fun name => fields.defaulted name () (form str?)

def readDetails? (j : RawJson) : Option Unit := do
  let names := ["name", "group", "kind", "uid"]
  let fields ← j.record? (names ++ ["causes", "retryAfterSeconds"]) 0
  names.forM fun name => fields.defaulted name () (form str?)
  fields.defaulted "causes" () (form (list? readCause?))
  fields.defaulted "retryAfterSeconds" () (form (natOfBits? 32))

def readStatus? (j : RawJson) : Option Unit := do
  let fields ← j.record? ["status", "code", "message", "reason", "details"] 0
  discard (fields.optional "status" readSummary?)
  fields.defaulted "code" () (form (natOfBits? 16))
  fields.defaulted "message" () (form str?)
  fields.defaulted "reason" () (form str?)
  discard (fields.optional "details" readDetails?)

end FleetHealth.Api
