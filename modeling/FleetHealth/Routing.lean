import FleetHealth.Object.Machine
import FleetHealth.Object.Node
import FleetHealth.Object.Policy

namespace FleetHealth

open ClusterObject

/-- Whether a machine is in the namespace of a policy and selected by it. A policy whose selector
is refused concerns no machine. -/
def Policy.concerns (p : Policy) (machine : Machine) : Bool :=
  p.metadata.ns = machine.metadata.ns &&
    match p.spec.machineSelector with
    | .ok selector => selector.selects machine.metadata.labels
    | .error _ => false

def Machine.routes (machine : Machine) (policies : List Policy) : List Key :=
  (policies.filter (·.concerns machine)).map key

/-- The key under which the machine of a node is looked up; a malformed one counts as none. -/
def Node.lookupKey? (n : Node) : Option Key :=
  match n.machineKey? with
  | .ok k => k
  | .error _ => none

def Node.routes (n : Node) (lookup : Key → Option Machine) (policies : List Policy) : List Key :=
  match n.lookupKey?.bind lookup with
  | some machine => machine.routes policies
  | none => []

end FleetHealth
