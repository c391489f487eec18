import FleetHealth.Object.Basic

namespace FleetHealth

open Json RawJson

structure MachineSetStatus where
  replicas : Int
  fullyLabeledReplicas : Int
  readyReplicas : Int
  availableReplicas : Int
  observedGeneration : Option Int
  errorReason : Option String
  errorMessage : Option String
  deriving DecidableEq

structure MachineSet where
  metadata : Metadata
  replicas : Option Int
  minReadySeconds : Option Int
  deletePolicy : Option String
  selector : LabelSelector
  template : Option Json
  status : Option MachineSetStatus
  deriving DecidableEq

def MachineSetStatus.blank : MachineSetStatus where
  replicas := 0
  fullyLabeledReplicas := 0
  readyReplicas := 0
  availableReplicas := 0
  observedGeneration := none
  errorReason := none
  errorMessage := none

namespace MachineSetStatus

def read? (j : RawJson) : Option MachineSetStatus := do
  let fields ← j.record? ["replicas", "fullyLabeledReplicas", "readyReplicas", "availableReplicas",
    "observedGeneration", "errorReason", "errorMessage"] 0
  return {
    replicas := ← fields.defaulted "replicas" 0 int32?
    fullyLabeledReplicas := ← fields.defaulted "fullyLabeledReplicas" 0 int32?
    readyReplicas := ← fields.defaulted "readyReplicas" 0 int32?
    availableReplicas := ← fields.defaulted "availableReplicas" 0 int32?
    observedGeneration := ← fields.optional "observedGeneration" int64?
    errorReason := ← fields.optional "errorReason" str?
    errorMessage := ← fields.optional "errorMessage" str? }

def write (s : MachineSetStatus) : Json := record [
  ("replicas", some (.int s.replicas)),
  ("fullyLabeledReplicas", some (.int s.fullyLabeledReplicas)),
  ("readyReplicas", some (.int s.readyReplicas)),
  ("availableReplicas", some (.int s.availableReplicas)),
  ("observedGeneration", s.observedGeneration.map .int),
  ("errorReason", s.errorReason.map .str),
  ("errorMessage", s.errorMessage.map .str)]

end MachineSetStatus

namespace MachineSet

def kind : ResourceKind where
  group := "machine.openshift.io"
  version := "v1beta1"
  kind := "MachineSet"
  plural := "machinesets"
  isNamespaced := true

/-- The reported status; one that is missing counts as all zeros. -/
def replicaStatus (s : MachineSet) : MachineSetStatus := s.status.getD .blank

def readSpec? (metadata : Metadata) (status : Option MachineSetStatus) (j : RawJson) :
    Option MachineSet := do
  let fields ← j.record? ["replicas", "minReadySeconds", "deletePolicy", "selector", "template"] 0
  return {
    metadata
    replicas := ← fields.optional "replicas" int32?
    minReadySeconds := ← fields.optional "minReadySeconds" int32?
    deletePolicy := ← fields.optional "deletePolicy" str?
    selector := ← fields.defaulted "selector" default LabelSelector.read?
    template := ← fields.optional "template" value?
    status }

def writeSpec (s : MachineSet) : Json := record [
  ("replicas", s.replicas.map .int),
  ("minReadySeconds", s.minReadySeconds.map .int),
  ("deletePolicy", s.deletePolicy.map .str),
  ("selector", some s.selector.write),
  ("template", s.template)]

def read? (j : RawJson) : Option MachineSet := do
  let fields ← j.record? ["metadata", "spec", "status"] 3
  let metadata ← fields.required "metadata" Metadata.read?
  let status ← fields.optional "status" MachineSetStatus.read?
  fields.required "spec" (readSpec? metadata status)

def write (s : MachineSet) : Json := ClusterObject.manifest kind [
  ("metadata", some s.metadata.write),
  ("spec", some s.writeSpec),
  ("status", s.status.map MachineSetStatus.write)]

instance : ClusterObject MachineSet where
  kind := kind
  metadata := MachineSet.metadata
  withMetadata s metadata := { s with metadata }
  read? := read?
  write := write

end MachineSet

end FleetHealth
