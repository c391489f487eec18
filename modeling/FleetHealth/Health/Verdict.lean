import FleetHealth.Object.Policy

namespace FleetHealth

inductive PendingCause where
  | noNode (machine : String)
  | awaitingNode (machine : String)
  | condition (node : String)
  deriving DecidableEq

inductive UnhealthyCause where
  | failedPhase (machine : String)
  | danglingNode (machine node : String)
  | condition (node : String) (rule : Rule) (limit : Duration)
  | noNode (machine : String) (limit : Duration)
  deriving DecidableEq

inductive Verdict where
  | healthy
  /-- Healthy, with the time after which that could change. -/
  | pending (delay : Duration) (cause : PendingCause)
  | unhealthy (cause : UnhealthyCause)
  deriving DecidableEq

def PendingCause.text : PendingCause → String
  | noNode machine => "Machine " ++ machine ++ " has no node yet"
  | awaitingNode machine => "Machine " ++ machine ++ " is waiting for a node"
  | condition node => "Node " ++ node ++ " has a condition pending its timeout"

def UnhealthyCause.text : UnhealthyCause → String
  | failedPhase machine => "Machine " ++ machine ++ " is in a failed phase"
  | danglingNode machine node =>
    "Node " ++ node ++ " referenced by machine " ++ machine ++ " does not exist"
  | condition node rule limit =>
    "Node " ++ node ++ " has condition " ++ rule.conditionType ++ "=" ++ rule.status
      ++ " for longer than " ++ limit.render
  | noNode machine limit =>
    "Machine " ++ machine ++ " has not acquired a node within " ++ limit.render

namespace Verdict

def isUnhealthy : Verdict → Bool
  | unhealthy _ => true
  | _ => false

/-- The time after which the verdict could change; zero if there is nothing to wait for. -/
def recheckAfter : Verdict → Duration
  | pending delay _ => delay
  | _ => .zero

def reason : Verdict → String
  | healthy => "No unhealthy condition is present"
  | pending _ cause => cause.text
  | unhealthy cause => cause.text

def delay? (v : Verdict) : Option Duration :=
  if v.isUnhealthy || v.recheckAfter = .zero then none else some v.recheckAfter

end Verdict

def Duration.shortest? : List Duration → Option Duration
  | [] => none
  | d :: ds => some (ds.foldl Duration.shorter d)

def Verdict.nextCheck (vs : List Verdict) : Option Duration :=
  Duration.shortest? (vs.filterMap Verdict.delay?)

end FleetHealth
