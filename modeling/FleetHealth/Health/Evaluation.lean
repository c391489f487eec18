import FleetHealth.Health.Target
import FleetHealth.Health.Verdict
import FleetHealth.Time.Instant
/-!
Evaluation of a target at an instant. A machine that has failed is unhealthy whatever its node. A
machine without a node has some minutes to get one. A node that does not exist makes its machine
unhealthy, and one that exists does so when a condition has lasted as long as a rule allows.
-/

namespace FleetHealth

open ClusterObject

def nodeGracePeriod : Duration := .ofSeconds 600

/-- How long the node has had the condition that a rule is about; without end if it is not known
since when. -/
def Node.heldFor (n : Node) (rule : Rule) (now : Instant) : Option Duration := do
  let condition ← n.condition? rule.conditionType
  if condition.status = rule.status then
    return match condition.lastTransition with
      | some since => now.elapsedSince since
      | none => .max
  else none

/-- The verdict of rules with their limits on a node, which could change after the time that the
rules in front of them leave. The first rule whose limit has been reached decides. -/
def Node.judge (n : Node) (now : Instant) : Option Duration → List (Rule × Duration) → Verdict
  | none, [] => .healthy
  | some delay, [] => .pending delay (.condition (shownName n))
  | delay, (rule, limit) :: rules =>
    match n.heldFor rule now with
    | none => n.judge now delay rules
    | some held =>
      if limit ≤ held then .unhealthy (.condition (shownName n) rule limit)
      else
        let remaining := limit.minus held
        n.judge now (some (delay.elim remaining (·.shorter remaining))) rules

def Machine.judgeWithoutNode (machine : Machine) (now : Instant) : Verdict :=
  match machine.lastUpdated? with
  | none => .pending nodeGracePeriod (.noNode (shownName machine))
  | some since =>
    let waited := now.elapsedSince since
    if nodeGracePeriod ≤ waited then .unhealthy (.noNode (shownName machine) nodeGracePeriod)
    else .pending (nodeGracePeriod.minus waited) (.awaitingNode (shownName machine))

def Rule.limits (rules : List Rule) : Except Failure (List (Rule × Duration)) :=
  rules.mapM fun r => return (r, ← r.limit)

namespace Target

/-- The verdict of rules on a target. It fails only if a node is there and one of the rules has no
limit. -/
def evaluate (rules : List Rule) (now : Instant) (t : Target) : Except Failure Verdict :=
  if t.machine.phase?.any MachinePhase.isTerminalFailure then
    .ok (.unhealthy (.failedPhase (shownName t.machine)))
  else match t.node with
    | .absent => .ok (t.machine.judgeWithoutNode now)
    | .missing name => .ok (.unhealthy (.danglingNode (shownName t.machine) name))
    | .present n => (Rule.limits rules).map (n.judge now none)

def evaluateAll (rules : List Rule) (now : Instant) (ts : List Target) :
    Except Failure (List (Target × Verdict)) :=
  ts.mapM fun t => return (t, ← t.evaluate rules now)

end Target

end FleetHealth
