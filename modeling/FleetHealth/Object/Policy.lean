import FleetHealth.Failure
import FleetHealth.Object.Basic
import FleetHealth.Time.Duration.Parser

namespace FleetHealth

open Json RawJson

structure Rule where
  conditionType : String
  status : String
  timeout : String
  deriving DecidableEq

structure PolicySpec where
  selector : LabelSelector
  rules : List Rule
  deriving DecidableEq

structure Policy where
  metadata : Metadata
  spec : PolicySpec
  deriving DecidableEq

def Rule.limit (r : Rule) : Except Failure Duration :=
  (Duration.parse r.timeout).mapError fun fault =>
    .timeout r.conditionType r.timeout (fault.message r.timeout)

namespace PolicySpec

def machineSelector (s : PolicySpec) : Except Failure Selector :=
  s.selector.check.mapError fun fault => .selector fault.message

/-- A policy is sound when its selector and the timeouts of all its rules are. -/
def validate (s : PolicySpec) : Except Failure Unit := do
  let _ ← s.machineSelector
  s.rules.forM fun r => do
    let _ ← r.limit

end PolicySpec

namespace Rule

def read? (j : RawJson) : Option Rule := do
  let fields ← j.record? ["type", "status", "timeout"] 3
  return {
    conditionType := ← fields.required "type" str?
    status := ← fields.required "status" str?
    timeout := ← fields.required "timeout" str? }

def write (r : Rule) : Json :=
  .obj [("type", .str r.conditionType), ("status", .str r.status), ("timeout", .str r.timeout)]

end Rule

namespace PolicySpec

def read? (j : RawJson) : Option PolicySpec := do
  let fields ← j.record? ["selector", "unhealthyConditions"] 1
  return {
    selector := ← fields.required "selector" LabelSelector.read?
    rules := ← fields.defaulted "unhealthyConditions" [] (list? Rule.read?) }

def write (s : PolicySpec) : Json :=
  .obj [("selector", s.selector.write), ("unhealthyConditions", .arr (s.rules.map Rule.write))]

end PolicySpec

namespace Policy

def kind : ResourceKind where
  group := "healthchecking.openshift.io"
  version := "v1alpha1"
  kind := "MachineHealthCheck"
  plural := "machinehealthchecks"
  isNamespaced := true

def read? (j : RawJson) : Option Policy := do
  let fields ← j.record? ["metadata", "spec"] 2
  return {
    metadata := ← fields.required "metadata" Metadata.read?
    spec := ← fields.required "spec" PolicySpec.read? }

def write (p : Policy) : Json := ClusterObject.manifest kind [
  ("metadata", some p.metadata.write),
  ("spec", some p.spec.write)]

instance : ClusterObject Policy where
  kind := kind
  metadata := Policy.metadata
  withMetadata p m := { p with metadata := m }
  read? := read?
  write := write

end Policy

end FleetHealth
