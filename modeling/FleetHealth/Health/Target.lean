import FleetHealth.Store.Repository

namespace FleetHealth

open ClusterObject

inductive NodeSlot where
  /-- The machine names no node. -/
  | absent
  /-- The machine names a node that the cluster does not have. -/
  | missing (name : String)
  | present (node : Node)
  deriving DecidableEq

namespace NodeSlot

def node? : NodeSlot → Option Node
  | present n => some n
  | _ => none

def name? : NodeSlot → Option String
  | absent => none
  | missing name => some name
  | present n => some (shownName n)

end NodeSlot

structure Target where
  machine : Machine
  node : NodeSlot
  deriving DecidableEq

namespace Target

def key (t : Target) : Key := ClusterObject.key t.machine

/-- A target belongs to the control plane if its machine or its node says so. -/
def isControlPlane (t : Target) : Bool :=
  t.machine.isControlPlane || t.node.node?.any Node.isControlPlane

end Target

namespace Store

variable {m : Type → Type} [Monad m]

/-- The node that a machine names. It is a failure if the cluster does not have it. -/
def nodeOf (s : Store m) (machine : Machine) : m (Except Failure (Option Node)) :=
  match machine.nodeName? with
  | none => return .ok none
  | some name => do
    match ← s.nodes.get (.clusterWide name) with
    | .error f => return .error f
    | .ok (some n) => return .ok (some n)
    | .ok none => return .error (.notFound Node.kind.kind name "")

/-- A machine with its node. A node that is not found is missing; other failures stay failures. -/
def target (s : Store m) (machine : Machine) : m (Except Failure Target) := do
  match ← s.nodeOf machine with
  | .ok (some n) => return .ok { machine, node := .present n }
  | .ok none => return .ok { machine, node := .absent }
  | .error (.notFound _ name _) => return .ok { machine, node := .missing name }
  | .error f => return .error f

def targets (s : Store m) : List Machine → m (Except Failure (List Target))
  | [] => return .ok []
  | machine :: machines => do
    match ← s.target machine with
    | .error f => return .error f
    | .ok t => return (← s.targets machines).map (t :: ·)

def resolve (s : Store m) (policy : Policy) : m (Except Failure (List Target)) :=
  match policy.spec.machineSelector with
  | .error f => return .error f
  | .ok selector => do
    match ← s.machines.list policy.metadata.ns selector with
    | .error f => return .error f
    | .ok machines => s.targets machines

end Store

end FleetHealth
