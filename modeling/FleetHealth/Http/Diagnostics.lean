import FleetHealth.DryRun
import FleetHealth.Http.Response
import FleetHealth.Http.Uri
import FleetHealth.Metrics.Exposition
import FleetHealth.Summary
import FleetHealth.Text.Percent

namespace FleetHealth.Http

open ClusterObject Text

def isMethodChar (c : Char) : Bool := c.isAlphanum || "!#$%&'*+-.^_\x60|~".toList.contains c

def isMethod (s : String) : Bool := !s.isEmpty && s.all isMethodChar

inductive Route where
  | health
  | metrics
  | policies
  | targets (policy : Key)
  /-- A part of the path that is no text once it is decoded. -/
  | malformed (part : String)
  deriving DecidableEq

namespace Route

def ofPolicy (ns name : List Char) : Route :=
  match percentDecode? ns, percentDecode? name with
  | none, _ => malformed "namespace"
  | _, none => malformed "name"
  | some ns, some name => targets (.namespaced ns name)

def ofPath? (path : List Char) : Option Route :=
  match (splitAll '/' path).map String.ofList with
  | ["", "health"] => some health
  | ["", "metrics"] => some metrics
  | ["", "api", "v1", "machinehealthchecks"] => some policies
  | ["", "api", "v1", "machinehealthchecks", ns, name, "targets"] =>
    some (ofPolicy ns.toList name.toList)
  | _ => none

end Route

def failed (status : Nat) (error : String) (f : Failure) : Response :=
  .json status (.obj [("error", .str error), ("message", .str f.statusMessage)])

def policyList (policies : List Policy) : Json := .obj [
  ("items", .arr (policies.map fun p => (PolicySummary.ofPolicy p).write)),
  ("total", .ofNat policies.length)]

def targetList (policy : Key) (reports : List TargetReport) : Json := .obj [
  ("policy", .str policy.name),
  ("namespace", .str policy.nsText),
  ("targets", .arr (reports.map TargetReport.write))]

/-- The answer with the dry run of a policy. A policy at fault is told apart from other failures. -/
def targetsResponse (policy : Key) : Except Failure (List TargetReport) → Response
  | .ok reports => .json 200 (targetList policy reports)
  | .error f =>
    if f.isPolicyFault then failed 422 "invalid_policy" f else failed 500 "evaluation_failed" f

section

variable {m : Type → Type} [Monad m]

def policiesAnswer (s : Store m) (ns : Option String) : m Response := do
  match ← s.policies.list ns .everything with
  | .ok policies => return .json 200 (policyList policies)
  | .error f => return failed 500 "list_failed" f

def targetsAnswer (s : Store m) (k : Key) (now : Instant) : m Response := do
  match ← s.policies.get k with
  | .error f => return failed 500 "get_failed" f
  | .ok none => return failed 404 "not_found" (.notFound Policy.kind.kind k.name k.nsText)
  | .ok (some policy) => return targetsResponse k (← s.dryRun policy now)

/-- The answer of a route, and the metrics after it: they are refreshed when they are asked for. -/
def routeAnswer (s : Store m) (ns : Option String) (now : Instant) (metrics : Metrics) :
    Route → m (Response × Metrics)
  | .health => return ({ status := 200, body := "ok" }, metrics)
  | .metrics => do
    let metrics ← s.refreshInventory ns metrics
    return ({ status := 200, body := metrics.expose }, metrics)
  | .policies => return (← policiesAnswer s ns, metrics)
  | .targets k => return (← targetsAnswer s k now, metrics)
  | .malformed part =>
    return ({ status := 400, body := "Invalid URL: Invalid UTF-8 in \x60" ++ part ++ "\x60" }, metrics)

/-- The answer to a request for a path. Only reading is allowed; to ask for the head of an answer
is to read it without its body. -/
def answer (s : Store m) (ns : Option String) (now : Instant) (metrics : Metrics)
    (method : String) (path : List Char) : m (Response × Metrics) :=
  match Route.ofPath? path with
  | none => return ({ status := 404, body := "" }, metrics)
  | some route =>
    if method = "GET" then routeAnswer s ns now metrics route
    else if method = "HEAD" then do
      let (response, metrics) ← routeAnswer s ns now metrics route
      return ({ response with body := "" }, metrics)
    else return ({ status := 405, body := "" }, metrics)

end

end FleetHealth.Http
