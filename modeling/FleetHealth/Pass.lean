import FleetHealth.Health.Evaluation
import FleetHealth.Remediation.Execution
/-!
Passes over the targets of a policy: resolve the targets, evaluate all of them, remediate the
unhealthy ones, and say when the next pass is due. A pass is kept as the record of what it did, so
that a pass that stopped half-way tells what came before.
-/

namespace FleetHealth

inductive PassStage where
  | resolving
  | evaluating
  | remediating
  | scheduled
  deriving DecidableEq

def PassStage.text : PassStage → String
  | resolving => "Resolving"
  | evaluating => "Evaluating"
  | remediating => "Remediating"
  | scheduled => "Scheduled"

def PassStage.all : List PassStage := [resolving, evaluating, remediating, scheduled]

structure Pass where
  /-- The targets with the verdicts on them, once all of them are evaluated. -/
  survey : Option (List (Target × Verdict))
  remediations : List (Key × RemediationAction)
  failure : Option Failure
  deriving DecidableEq

structure PassOutcome where
  /-- When the next pass is due; without it the next change is waited for. -/
  requeueAfter : Option Duration
  targets : Nat
  unhealthy : Nat
  remediations : List (Key × RemediationAction)
  deriving DecidableEq

namespace Pass

def vanished : Pass := { survey := none, remediations := [], failure := none }

def stopped (f : Failure) : Pass := { survey := none, remediations := [], failure := some f }

def targetCount (survey : List (Target × Verdict)) : Nat := survey.length

def unhealthyCount (survey : List (Target × Verdict)) : Nat :=
  (survey.filter fun e => e.2.isUnhealthy).length

def outcome (p : Pass) : Except Failure PassOutcome :=
  match p.failure with
  | some f => .error f
  | none =>
    let survey := p.survey.getD []
    .ok {
      requeueAfter := Verdict.nextCheck (survey.map Prod.snd)
      targets := targetCount survey
      unhealthy := unhealthyCount survey
      remediations := p.remediations }

end Pass

namespace Store

variable {m : Type → Type} [Monad m]

/-- Remediates the unhealthy targets in order, up to the first failure: what was done, and the
failure. -/
def remediateAll (s : Store m) :
    List (Target × Verdict) → m (List (Key × RemediationAction) × Option Failure)
  | [] => return ([], none)
  | (t, v) :: survey =>
    if v.isUnhealthy then do
      match ← s.remediate t with
      | .error f => return ([], some f)
      | .ok action =>
        let (done, failure) ← s.remediateAll survey
        return ((t.key, action) :: done, failure)
    else s.remediateAll survey

def passOf (s : Store m) (policy : Policy) (now : Instant) : m Pass := do
  match ← s.resolve policy with
  | .error f => return .stopped f
  | .ok targets =>
    match Target.evaluateAll policy.spec.rules now targets with
    | .error f => return .stopped f
    | .ok survey =>
      let (remediations, failure) ← s.remediateAll survey
      return { survey := some survey, remediations, failure }

/-- A pass of the policy with a key. A policy that is not sound is not acted on. -/
def pass (s : Store m) (k : Key) (now : Instant) : m Pass := do
  match ← s.policies.get k with
  | .error f => return .stopped f
  | .ok none => return .vanished
  | .ok (some policy) =>
    match policy.spec.validate with
    | .error f => return .stopped f
    | .ok _ => s.passOf policy now

end Store

end FleetHealth
