import FleetHealth.Health.Evaluation
import FleetHealth.Remediation.Plan

namespace FleetHealth

structure TargetReport where
  machine : String
  node : Option String
  unhealthy : Bool
  recheckSeconds : Nat
  reason : String
  plannedAction : Option String
  deriving DecidableEq

namespace TargetReport

def ofVerdict (t : Target) (v : Verdict) : TargetReport where
  machine := t.key.text
  node := t.node.name?
  unhealthy := v.isUnhealthy
  recheckSeconds := v.recheckAfter.seconds
  reason := v.reason
  plannedAction := if v.isUnhealthy then some t.plan.text else none

def write (r : TargetReport) : Json := .obj [
  ("machine", .str r.machine),
  ("node", Json.ofOption .str r.node),
  ("unhealthy", .bool r.unhealthy),
  ("recheckAfterSecs", .ofNat r.recheckSeconds),
  ("reason", .str r.reason),
  ("plannedAction", Json.ofOption .str r.plannedAction)]

end TargetReport

variable {m : Type → Type} [Monad m]

def Store.dryRun (s : Store m) (policy : Policy) (now : Instant) :
    m (Except Failure (List TargetReport)) := do
  match ← s.resolve policy with
  | .error f => return .error f
  | .ok targets =>
    return (Target.evaluateAll policy.spec.rules now targets).map
      (·.map fun (t, v) => TargetReport.ofVerdict t v)

end FleetHealth
