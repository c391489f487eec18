import FleetHealth.CommandLine.Exit
import FleetHealth.Inspector.Render
import FleetHealth.Inspector.Request

namespace FleetHealth.Inspector

open CommandLine

def defaultNamespace : String := "default"

/-- A document ends its last line; a table has done so. -/
def endLine (format : Format) (text : String) : String :=
  if format = .table then text else text ++ "\n"

section

variable {m : Type → Type} [Monad m]

def policies (s : Store m) (format : Format) (ns : String) (allNamespaces : Bool) :
    m (Except Failure String) := do
  return (← s.policies.list (if allNamespaces then none else some ns) .everything).map fun ps =>
    endLine format (renderPolicies format allNamespaces (ps.map PolicySummary.ofPolicy))

def targets (s : Store m) (format : Format) (k : Key) (now : Instant) :
    m (Except Failure String) := do
  match ← s.policies.get k with
  | .error f => return .error f
  | .ok none => return .error (.notFound Policy.kind.kind k.name k.nsText)
  | .ok (some policy) =>
    return (← s.dryRun policy now).map fun reports => endLine format (renderReports format reports)

def Request.answer (r : Request) (s : Store m) (now : Instant) : m (Except Failure String) :=
  let format := Format.ofName r.output
  let ns := r.ns.getD defaultNamespace
  match r.command with
  | .list allNamespaces => policies s format ns allNamespaces
  | .targets policy => targets s format (.namespaced ns policy) now

def name : String := "kubectl-mhc"

def usage : String := "Usage: " ++ name ++ " [OPTIONS] <COMMAND>\n"

def run (s : Store m) (now : Instant) (args : List String) : m Exit :=
  match Request.ofArguments args with
  | .error h => return .ofHalt name version usage h
  | .ok r => do
    match ← r.answer s now with
    | .ok text => return .success text
    | .error f => return .failure f.message

end

end FleetHealth.Inspector
