import FleetHealth.Failure
import FleetHealth.Object.Basic

namespace FleetHealth

open Json RawJson
open Shape (field textField)

structure NodeCondition where
  type : String
  status : String
  lastTransition : Option Instant
  lastHeartbeat : Option Instant
  reason : Option String
  message : Option String
  deriving DecidableEq

structure NodeStatus where
  conditions : Option (List NodeCondition)
  other : Json.Fields
  deriving DecidableEq

structure Node where
  metadata : Metadata
  spec : Option Json
  status : Option NodeStatus
  deriving DecidableEq

namespace Node

def kind : ResourceKind where
  group := ""
  version := "v1"
  kind := "Node"
  plural := "nodes"
  isNamespaced := false

def machineAnnotation : String := "machine.openshift.io/machine"

def rebootAnnotation : String := "healthchecking.openshift.io/machine-remediation-reboot"

/-- The labels of control-plane nodes, either of which is enough. -/
def masterLabel : String := "node-role.kubernetes.io/master"

def controlPlaneLabel : String := "node-role.kubernetes.io/control-plane"

def machineKey? (n : Node) : Except Failure (Option Key) :=
  match n.metadata.annotation? machineAnnotation with
  | none => .ok none
  | some s => match Key.ofReference? s with
    | some k => .ok (some k)
    | none => .error (.reference (Key.referenceComplaint s))

def isControlPlane (n : Node) : Bool :=
  (n.metadata.label? masterLabel).isSome || (n.metadata.label? controlPlaneLabel).isSome

def hasRebootRequest (n : Node) : Bool := (n.metadata.annotation? rebootAnnotation).isSome

def requestReboot (n : Node) : Node :=
  { n with metadata := n.metadata.annotate rebootAnnotation "" }

/-- The first condition of a type. -/
def condition? (n : Node) (type : String) : Option NodeCondition := do
  (← (← n.status).conditions).find? (·.type == type)

end Node

namespace NodeCondition

def read? (j : RawJson) : Option NodeCondition := do
  let fields ← j.fields?
  return {
    type := ← fields.orElse "type" "" str?
    status := ← fields.orElse "status" "" str?
    lastTransition := ← fields.optional "lastTransitionTime" readInstant?
    lastHeartbeat := ← fields.optional "lastHeartbeatTime" readInstant?
    reason := ← fields.optional "reason" str?
    message := ← fields.optional "message" str? }

def write (c : NodeCondition) : Json := record [
  ("lastHeartbeatTime", c.lastHeartbeat.map fun t => .str t.renderSeconds),
  ("lastTransitionTime", c.lastTransition.map fun t => .str t.renderSeconds),
  ("message", c.message.map .str),
  ("reason", c.reason.map .str),
  ("status", some (.str c.status)),
  ("type", some (.str c.type))]

end NodeCondition

namespace Node

def configSource : Shape := .record [
  field "configMap" (.record [
    textField "kubeletConfigKey", textField "name", textField "namespace",
    field "resourceVersion" .text, field "uid" .text])]

def specShape : Shape := .record [
  field "configSource" configSource, field "externalID" .text, field "podCIDR" .text,
  field "podCIDRs" (.list .text), field "providerID" .text,
  field "taints" (.list (.record [
    textField "effect", textField "key", field "timeAdded" .time, field "value" .text])),
  field "unschedulable" .bool]

def statusFields : List (String × Option Json × Shape) := [
  field "addresses" (.list (.record [textField "address", textField "type"])),
  field "allocatable" (.map .text), field "capacity" (.map .text),
  field "config" (.record [
    field "active" configSource, field "assigned" configSource, field "error" .text,
    field "lastKnownGood" configSource]),
  field "daemonEndpoints" (.record [
    field "kubeletEndpoint" (.record [("Port", some (.int 0), .int32)])]),
  field "images" (.list (.record [field "names" (.list .text), field "sizeBytes" .int64])),
  field "nodeInfo" (.record [
    textField "architecture", textField "bootID", textField "containerRuntimeVersion",
    textField "kernelVersion", textField "kubeProxyVersion", textField "kubeletVersion",
    textField "machineID", textField "operatingSystem", textField "osImage",
    textField "systemUUID"]),
  field "phase" .text,
  field "volumesAttached" (.list (.record [textField "devicePath", textField "name"])),
  field "volumesInUse" (.list .text)]

def readStatus? (j : RawJson) : Option NodeStatus := do
  let fields ← j.fields?
  return {
    conditions := ← fields.optional "conditions" (list? NodeCondition.read?)
    other := ← Shape.normalFields? statusFields fields }

def writeStatus (s : NodeStatus) : Json := record (
  ("conditions", s.conditions.map fun cs => .arr (cs.map NodeCondition.write))
  :: s.other.map fun (k, v) => (k, some v))

def hasOnly (fields : RawJson.Fields) (name text : String) : Bool :=
  (fields.last? name fun j => j.str?.filter (· == text)).isSome

def read? (j : RawJson) : Option Node := do
  let fields ← j.fields?
  if hasOnly fields "apiVersion" kind.apiVersion && hasOnly fields "kind" kind.kind then
    return {
      metadata := ← fields.orElse "metadata" default Metadata.read?
      spec := ← fields.optional "spec" (Shape.normal? specShape)
      status := ← fields.optional "status" readStatus? }
  else none

def write (n : Node) : Json := ClusterObject.manifest kind [
  ("metadata", some n.metadata.write),
  ("spec", n.spec),
  ("status", n.status.map writeStatus)]

instance : ClusterObject Node where
  kind := kind
  metadata := Node.metadata
  withMetadata n metadata := { n with metadata }
  read? := read?
  write := write

end Node

end FleetHealth
