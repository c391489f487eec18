import FleetHealth.Remediation.Plan

namespace FleetHealth

open ClusterObject

/-- The failure of a step. A conflict stays one; all else is a failed remediation. -/
def Failure.ofStep (step subject : String) : Failure → Failure
  | .conflict kind name => .conflict kind name
  | f => .remediation (step ++ " " ++ subject ++ ": " ++ f.message)

namespace Store

variable {m : Type → Type} [Monad m]

def reboot (s : Store m) (n : Node) : m (Except Failure Unit) :=
  if n.hasRebootRequest then return .ok ()
  else do
    match ← s.nodes.replace n.requestReboot with
    | .ok _ => return .ok ()
    | .error f => return .error (.ofStep "requesting reboot of node" (shownName n) f)

def removeMachine (s : Store m) (k : Key) : m (Except Failure Unit) := do
  match ← s.machines.delete k with
  | .ok _ => return .ok ()
  | .error (.notFound ..) => return .ok ()
  | .error f => return .error (.ofStep "deleting machine" k.text f)

def execute (s : Store m) (t : Target) : RemediationAction → m (Except Failure Unit)
  | .skip _ => return .ok ()
  | .reboot => match t.node with
    | .present n => s.reboot n
    | _ => return .ok ()
  | .replace => s.removeMachine t.key

def remediate (s : Store m) (t : Target) : m (Except Failure RemediationAction) := do
  return (← s.execute t t.plan).map fun _ => t.plan

end Store

end FleetHealth
