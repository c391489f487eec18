import FleetHealth.Object.Policy

namespace FleetHealth

open Json RawJson ClusterObject

structure PolicySummary where
  name : String
  ns : String
  /-- The query of the selector, or why it is refused. -/
  selector : String
  rules : List Rule
  deriving DecidableEq

namespace PolicySummary

def ofPolicy (p : Policy) : PolicySummary where
  name := shownName p
  ns := p.metadata.ns.getD ""
  selector := match p.spec.machineSelector with
    | .ok selector => selector.query
    | .error f => "<invalid: " ++ f.message ++ ">"
  rules := p.spec.rules

def read? (j : RawJson) : Option PolicySummary := do
  let fields ← j.record? ["name", "namespace", "selector", "unhealthyConditions"] 4
  return {
    name := ← fields.required "name" str?
    ns := ← fields.required "namespace" str?
    selector := ← fields.required "selector" str?
    rules := ← fields.required "unhealthyConditions" (list? Rule.read?) }

def write (s : PolicySummary) : Json := .obj [
  ("name", .str s.name),
  ("namespace", .str s.ns),
  ("selector", .str s.selector),
  ("unhealthyConditions", .arr (s.rules.map Rule.write))]

end PolicySummary

end FleetHealth
