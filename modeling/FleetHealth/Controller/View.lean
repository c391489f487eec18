import FleetHealth.Routing
import FleetHealth.Table

namespace FleetHealth

open ClusterObject

inductive Notice where
  | policyApplied (p : Policy)
  | policyRemoved (p : Policy)
  | machineApplied (m : Machine)
  | machineRemoved (m : Machine)
  | nodeChanged (n : Node)

structure ClusterView where
  policies : Table Key Policy
  machines : Table Key Machine

namespace ClusterView

def blank : ClusterView := { policies := .empty, machines := .empty }

def apply (v : ClusterView) : Notice → ClusterView
  | .policyApplied p => { v with policies := v.policies.insert (key p) p }
  | .policyRemoved p => { v with policies := v.policies.erase (key p) }
  | .machineApplied m => { v with machines := v.machines.insert (key m) m }
  | .machineRemoved m => { v with machines := v.machines.erase (key m) }
  | .nodeChanged _ => v

/-- The policies that have to be looked at after a change. One that was removed does not. -/
def concerned (v : ClusterView) : Notice → List Key
  | .policyApplied p => [key p]
  | .policyRemoved _ => []
  | .machineApplied m | .machineRemoved m => m.routes v.policies.values
  | .nodeChanged n => n.routes v.machines.get? v.policies.values

end ClusterView

end FleetHealth
