import FleetHealth.Pass

namespace FleetHealth

open ClusterObject

abbrev Series := Table (List String) Int

namespace Series

def set (s : Series) (labels : List String) (value : Int) : Series := s.insert labels value

/-- The value of a counter, which is zero as long as nothing was counted. -/
def count (s : Series) (labels : List String) : Int := (s.get? labels).getD 0

def increment (s : Series) (labels : List String) : Series := s.set labels (s.count labels + 1)

def ofList (es : List (List String × Int)) : Series := Table.ofList es

end Series

structure Metrics where
  remediations : Series
  targets : Series
  unhealthyTargets : Series
  reconcileErrors : Series
  machineItems : Int
  machineCreated : Series
  machineSetItems : Int
  machineSetCreated : Series
  machineSetAvailable : Series
  machineSetReady : Series
  machineSetReplicas : Series
  scrapeFailures : Series

namespace Metrics

def initial : Metrics where
  remediations := .empty
  targets := .empty
  unhealthyTargets := .empty
  reconcileErrors := .empty
  machineItems := 0
  machineCreated := .empty
  machineSetItems := 0
  machineSetCreated := .empty
  machineSetAvailable := .empty
  machineSetReady := .empty
  machineSetReplicas := .empty
  scrapeFailures := .empty

def policyLabels (k : Key) : List String := [k.nsText, k.name]

/-- A count as a gauge shows it, which has 64 bits and a sign. -/
def gauge (n : Nat) : Int := Int.bmod n Text.wordLimit

def recordPass (m : Metrics) (policy : Key) (targets unhealthy : Nat) : Metrics :=
  { m with
    targets := m.targets.set (policyLabels policy) (gauge targets)
    unhealthyTargets := m.unhealthyTargets.set (policyLabels policy) (gauge unhealthy) }

def recordRemediation (m : Metrics) (policy : Key) (action : String) : Metrics :=
  { m with remediations := m.remediations.increment (policyLabels policy ++ [action]) }

def recordError (m : Metrics) (policy : Key) : Metrics :=
  { m with reconcileErrors := m.reconcileErrors.increment (policyLabels policy) }

/-- Records what a pass did, whether it came to its end or not. -/
def record (m : Metrics) (policy : Key) (p : Pass) : Metrics :=
  let surveyed := p.survey.elim m fun survey =>
    m.recordPass policy (Pass.targetCount survey) (Pass.unhealthyCount survey)
  p.remediations.foldl (fun m r => m.recordRemediation policy r.2.label) surveyed

def machineLabels (machine : Machine) : List String := [
  shownName machine, machine.metadata.ns.getD "", machine.providerID.getD "",
  machine.nodeName?.getD "", Machine.kind.apiVersion]

def machineSetLabels (s : MachineSet) : List String := [shownName s, s.metadata.ns.getD ""]

/-- When the objects were created that tell it, in seconds since 1970. -/
def createdSeries {α : Type} [ClusterObject α] (labels : α → List String) (as : List α) : Series :=
  .ofList (as.filterMap fun a => (metadata a).created.map fun t => (labels a, t.seconds))

def replicaSeries (count : MachineSetStatus → Int) (sets : List MachineSet) : Series :=
  .ofList (sets.map fun s => (machineSetLabels s, count s.replicaStatus))

def countFailure (m : Metrics) (kind : String) : Metrics :=
  { m with scrapeFailures := m.scrapeFailures.increment [kind] }

/-- The inventory of machines from a listing. If that failed, it is counted and the inventory stays
as it was. -/
def refreshMachines (m : Metrics) : Except Failure (List Machine) → Metrics
  | .error _ => m.countFailure "mapi_machine_items"
  | .ok machines => { m with
      machineItems := machines.length
      machineCreated := createdSeries machineLabels machines }

def refreshMachineSets (m : Metrics) : Except Failure (List MachineSet) → Metrics
  | .error _ => m.countFailure "mapi_machineset_items"
  | .ok sets => { m with
      machineSetItems := sets.length
      machineSetCreated :=
        createdSeries (fun s => machineSetLabels s ++ [MachineSet.kind.apiVersion]) sets
      machineSetAvailable := replicaSeries (·.availableReplicas) sets
      machineSetReady := replicaSeries (·.readyReplicas) sets
      machineSetReplicas := replicaSeries (·.replicas) sets }

end Metrics

def Store.refreshInventory {m : Type → Type} [Monad m] (s : Store m) (ns : Option String)
    (metrics : Metrics) : m Metrics := do
  let machines ← s.machines.list ns .everything
  let sets ← s.machineSets.list ns .everything
  return (metrics.refreshMachines machines).refreshMachineSets sets

end FleetHealth
