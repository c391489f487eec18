import FleetHealth.CommandLine.Exit
import FleetHealth.Operator.Settings
import FleetHealth.Text.Quoted

namespace FleetHealth.Operator

open CommandLine

def probeComplaint : String := Policy.kind.kind ++ " CRD not installed"

section

variable {m : Type → Type} [Monad m]

def probe (s : Store m) (ns : Option String) : m (Except Failure Unit) := do
  match ← s.policies.list ns .everything with
  | .ok _ => return .ok ()
  | .error _ => return .error (.config probeComplaint)

def name : String := "machine-health-operator"

def usage : String := "Usage: " ++ name ++ " [OPTIONS]\n"

def probeExit : Exit := .failure ("ConfigError(" ++ Text.quote probeComplaint ++ ")")

/-- How the operator ends before its controller is running, if it does. -/
def start (s : Store m) (environment : String → Option String) (args : List String) :
    m (Except Exit Settings) :=
  match Settings.ofArguments environment args with
  | .error h => return .error (.ofHalt name version usage h)
  | .ok settings => do
    match ← probe s settings.ns with
    | .ok _ => return .ok settings
    | .error _ => return .error probeExit

end

end FleetHealth.Operator
