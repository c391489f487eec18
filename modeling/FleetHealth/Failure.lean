import FleetHealth.Object.Key

namespace FleetHealth

open Text

inductive ApiError where
  | refused (status message reason : String) (code : Nat)
  | undecodable
  | lineTooLong
  /-- A name does not fit into the target of a request. -/
  | invalidTarget
  | targetTooLong
  | unreachable
  deriving DecidableEq

namespace ApiError

def text : ApiError → String
  | refused status message reason code =>
    "ApiError: " ++ message ++ ": " ++ reason ++ " (ErrorResponse \x7b status: " ++ quote status
      ++ ", message: " ++ quote message ++ ", reason: " ++ quote reason ++ ", code: "
      ++ toString code ++ " \x7d)"
  | undecodable => "Error deserializing response"
  | lineTooLong => "Error finding newline character"
  | invalidTarget => "Failed to build request: failed to build request: invalid uri character"
  | targetTooLong => "Failed to build request: failed to build request: uri too long"
  | unreachable =>
    "HyperError: error trying to connect: tcp connect error: Network is unreachable (os error 101)"

def code? : ApiError → Option Nat
  | refused _ _ _ code => some code
  | _ => none

end ApiError

inductive Failure where
  | api (error : ApiError)
  | config (message : String)
  | selector (message : String)
  | timeout (conditionType timeout reason : String)
  | reference (message : String)
  | notFound (kind name ns : String)
  | conflict (kind name : String)
  | remediation (message : String)
  | metrics (message : String)
  deriving DecidableEq

namespace Failure

def message : Failure → String
  | api error => "Kubernetes API error: " ++ error.text
  | config m => "Configuration error: " ++ m
  | selector m => "Invalid label selector: " ++ m
  | timeout conditionType t reason =>
    "Invalid timeout " ++ quote t ++ " for condition " ++ conditionType ++ ": " ++ reason
  | reference m => "Invalid machine reference: " ++ m
  | notFound kind name ns => "Resource not found: " ++ kind ++ "/" ++ name ++ " in namespace " ++ ns
  | conflict kind name => "Conflict writing " ++ kind ++ "/" ++ name ++ ": object was modified"
  | remediation m => "Remediation failed: " ++ m
  | metrics m => "Metrics error: " ++ m

def statusMessage : Failure → String
  | api error => "Kubernetes error: " ++ error.text
  | selector m => "Selector rejected: " ++ m
  | timeout conditionType t _ =>
    "Unhealthy condition " ++ conditionType ++ " has an invalid timeout " ++ quote t
  | conflict kind name => kind ++ " " ++ name ++ " changed concurrently, will retry"
  | f => f.message

/-- Failures that may pass, so that trying again soon makes sense. -/
def isRetriable : Failure → Bool
  | api _ | conflict .. | remediation _ => true
  | _ => false

/-- Failures that only the author of a policy can mend. -/
def isPolicyFault : Failure → Bool
  | selector _ | timeout .. => true
  | _ => false

def isNotFound : Failure → Bool
  | notFound .. => true
  | _ => false

def ofApi (error : ApiError) (kind : String) (key : Key) : Failure :=
  if error.code? = some 404 then notFound kind key.name key.nsText
  else if error.code? = some 409 then conflict kind key.name
  else api error

end Failure

end FleetHealth
