import FleetHealth.Object.Basic

namespace FleetHealth

open Json RawJson

inductive MachinePhase where
  | provisioning
  | provisioned
  | running
  | deleting
  | failed
  | other (name : String)
  deriving DecidableEq

namespace MachinePhase

def ofName : String → MachinePhase
  | "Provisioning" => provisioning
  | "Provisioned" => provisioned
  | "Running" => running
  | "Deleting" => deleting
  | "Failed" => failed
  | name => other name

def name : MachinePhase → String
  | provisioning => "Provisioning"
  | provisioned => "Provisioned"
  | running => "Running"
  | deleting => "Deleting"
  | failed => "Failed"
  | other name => name

def isKnown : MachinePhase → Bool
  | other _ => false
  | _ => true

def isTerminalFailure (p : MachinePhase) : Bool := p == failed

end MachinePhase

structure NodeReference where
  name : String
  kind : Option String
  uid : Option String
  apiVersion : Option String
  deriving DecidableEq

structure MachineStatus where
  nodeRef : Option NodeReference
  lastUpdated : Option Instant
  phase : Option String
  errorReason : Option String
  errorMessage : Option String
  deriving DecidableEq

structure Machine where
  metadata : Metadata
  providerID : Option String
  providerSpec : Option Json
  status : Option MachineStatus
  deriving DecidableEq

namespace Machine

def kind : ResourceKind where
  group := "machine.openshift.io"
  version := "v1beta1"
  kind := "Machine"
  plural := "machines"
  isNamespaced := true

def roleLabel : String := "machine.openshift.io/cluster-api-machine-role"

def masterRole : String := "master"

/-- The kind of owners that replace machines which are deleted. -/
def setKind : String := "MachineSet"

/-- The name of the machine's node; an empty one counts as none. -/
def nodeName? (m : Machine) : Option String := do
  let ref ← (← m.status).nodeRef
  if ref.name.isEmpty then none else return ref.name

def phase? (m : Machine) : Option MachinePhase :=
  (m.status.bind MachineStatus.phase).map MachinePhase.ofName

def lastUpdated? (m : Machine) : Option Instant := m.status.bind MachineStatus.lastUpdated

def hasMachineSetOwner (m : Machine) : Bool := m.metadata.hasOwnerOfKind setKind

def isControlPlane (m : Machine) : Bool := m.metadata.label? roleLabel == some masterRole

end Machine

namespace NodeReference

def read? (j : RawJson) : Option NodeReference := do
  let fields ← j.record? ["name", "kind", "uid", "apiVersion"] 1
  return {
    name := ← fields.required "name" str?
    kind := ← fields.optional "kind" str?
    uid := ← fields.optional "uid" str?
    apiVersion := ← fields.optional "apiVersion" str? }

def write (r : NodeReference) : Json := record [
  ("name", some (.str r.name)),
  ("kind", r.kind.map .str),
  ("uid", r.uid.map .str),
  ("apiVersion", r.apiVersion.map .str)]

end NodeReference

namespace MachineStatus

def read? (j : RawJson) : Option MachineStatus := do
  let fields ← j.record? ["nodeRef", "lastUpdated", "phase", "errorReason", "errorMessage"] 0
  return {
    nodeRef := ← fields.optional "nodeRef" NodeReference.read?
    lastUpdated := ← fields.optional "lastUpdated" readInstant?
    phase := ← fields.optional "phase" str?
    errorReason := ← fields.optional "errorReason" str?
    errorMessage := ← fields.optional "errorMessage" str? }

def write (s : MachineStatus) : Json := record [
  ("nodeRef", s.nodeRef.map NodeReference.write),
  ("lastUpdated", s.lastUpdated.map fun t => .str (t.render "Z")),
  ("phase", s.phase.map .str),
  ("errorReason", s.errorReason.map .str),
  ("errorMessage", s.errorMessage.map .str)]

end MachineStatus

namespace Machine

def readSpec? (j : RawJson) : Option (Option String × Option Json) := do
  let fields ← j.record? ["providerID", "providerSpec"] 0
  let providerID ← fields.optional "providerID" str?
  let providerSpec ← fields.optional "providerSpec" value?
  return (providerID, providerSpec)

def read? (j : RawJson) : Option Machine := do
  let fields ← j.record? ["metadata", "spec", "status"] 3
  let metadata ← fields.required "metadata" Metadata.read?
  let (providerID, providerSpec) ← fields.required "spec" readSpec?
  let status ← fields.optional "status" MachineStatus.read?
  return { metadata, providerID, providerSpec, status }

def write (m : Machine) : Json := ClusterObject.manifest kind [
  ("metadata", some m.metadata.write),
  ("spec", some (record [("providerID", m.providerID.map .str), ("providerSpec", m.providerSpec)])),
  ("status", m.status.map MachineStatus.write)]

instance : ClusterObject Machine where
  kind := kind
  metadata := Machine.metadata
  withMetadata m metadata := { m with metadata }
  read? := read?
  write := write

end Machine

end FleetHealth
