import FleetHealth.Health.Target
/-!
What is to be done about an unhealthy target. Machines of the control plane are never deleted but
rebooted through their node; other machines are deleted if a machine set replaces them.
-/

namespace FleetHealth

inductive SkipReason where
  | noNodeToReboot
  | unowned
  deriving DecidableEq

def SkipReason.text : SkipReason → String
  | noNodeToReboot => "control-plane machine has no node to reboot"
  | unowned => "machine is not owned by a MachineSet"

inductive RemediationAction where
  | skip (reason : SkipReason)
  | reboot
  | replace
  deriving DecidableEq

namespace RemediationAction

/-- The name under which actions are counted. -/
def label : RemediationAction → String
  | skip _ => "skip"
  | reboot => "reboot"
  | replace => "replace"

def text : RemediationAction → String
  | skip reason => "skip (" ++ reason.text ++ ")"
  | a => a.label

end RemediationAction

def Target.plan (t : Target) : RemediationAction :=
  if t.isControlPlane then
    if t.node.node?.isSome then .reboot else .skip .noNodeToReboot
  else if t.machine.hasMachineSetOwner then .replace
  else .skip .unowned

end FleetHealth
