import FleetHealth.Store.Cluster
import FleetHealth.Proofs.Store.Collection

namespace FleetHealth.Cluster

inductive Part where
  | policies
  | machines
  | machineSets
  | nodes
  deriving DecidableEq

def setFault (c : Cluster) (fault : Fault) : Part → Cluster
  | .policies => { c with policies := c.policies.setFault fault }
  | .machines => { c with machines := c.machines.setFault fault }
  | .machineSets => { c with machineSets := c.machineSets.setFault fault }
  | .nodes => { c with nodes := c.nodes.setFault fault }

/-- The clusters that come from lists of objects by writes, while faults come and go. -/
structure Reached (c : Cluster) : Prop where
  policies : c.policies.Reached
  machines : c.machines.Reached
  machineSets : c.machineSets.Reached
  nodes : c.nodes.Reached

theorem reached_ofLists (policies : List Policy) (machines : List Machine)
    (machineSets : List MachineSet) (nodes : List Node) :
    (ofLists policies machines machineSets nodes).Reached where
  policies := .ofList policies
  machines := .ofList machines
  machineSets := .ofList machineSets
  nodes := .ofList nodes

structure Sound (c : Cluster) : Prop where
  machines : c.machines.Sound
  nodes : c.nodes.Sound

theorem Reached.sound {c : Cluster} (h : c.Reached) : c.Sound := ⟨h.machines.sound, h.nodes.sound⟩

structure FaultFree (c : Cluster) : Prop where
  policies : c.policies.fault = .none
  machines : c.machines.fault = .none
  machineSets : c.machineSets.fault = .none
  nodes : c.nodes.fault = .none

theorem faultFree_ofLists (policies : List Policy) (machines : List Machine)
    (machineSets : List MachineSet) (nodes : List Node) :
    (ofLists policies machines machineSets nodes).FaultFree := ⟨rfl, rfl, rfl, rfl⟩

/-- The cluster as if no write had been refused. -/
def settled (c : Cluster) : Cluster where
  policies := c.policies.settled
  machines := c.machines.settled
  machineSets := c.machineSets.settled
  nodes := c.nodes.settled

theorem Sound.of_settled_eq {c c' : Cluster} (h : c.Sound) (eq : c'.settled = c.settled) :
    c'.Sound :=
  ⟨h.machines.of_settled_eq (congrArg Cluster.machines eq :),
    h.nodes.of_settled_eq (congrArg Cluster.nodes eq :)⟩

theorem Sound.setFault {c : Cluster} (h : c.Sound) (fault : Fault) (part : Part) :
    (c.setFault fault part).Sound := by
  cases part with
  | policies => exact ⟨h.machines, h.nodes⟩
  | machines => exact ⟨h.machines.setFault fault, h.nodes⟩
  | machineSets => exact ⟨h.machines, h.nodes⟩
  | nodes => exact ⟨h.machines, h.nodes.setFault fault⟩

end FleetHealth.Cluster
