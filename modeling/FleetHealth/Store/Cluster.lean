import FleetHealth.Store.Collection

namespace FleetHealth

structure Cluster where
  policies : Collection Policy
  machines : Collection Machine
  machineSets : Collection MachineSet
  nodes : Collection Node
  deriving DecidableEq

namespace Cluster

def ofLists (policies : List Policy) (machines : List Machine) (machineSets : List MachineSet)
    (nodes : List Node) : Cluster where
  policies := .ofList policies
  machines := .ofList machines
  machineSets := .ofList machineSets
  nodes := .ofList nodes

def mutations (c : Cluster) : Nat :=
  c.policies.mutations + c.machines.mutations + c.machineSets.mutations + c.nodes.mutations

def repository {α : Type} [ClusterObject α] (part : Cluster → Collection α)
    (withPart : Cluster → Collection α → Cluster) : Repository (StateM Cluster) α where
  get k c := ((part c).get k, c)
  list ns selector c := ((part c).list ns selector, c)
  replace a c := let (result, p) := (part c).replace a; (result, withPart c p)
  delete k c := let (result, p) := (part c).delete k; (result, withPart c p)

def store : Store (StateM Cluster) where
  policies := repository policies fun c policies => { c with policies }
  machines := repository machines fun c machines => { c with machines }
  machineSets := repository machineSets fun c machineSets => { c with machineSets }
  nodes := repository nodes fun c nodes => { c with nodes }

end Cluster

end FleetHealth
