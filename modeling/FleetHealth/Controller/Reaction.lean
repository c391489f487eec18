import FleetHealth.Metrics

namespace FleetHealth

structure RetryDelays where
  /-- After failures that may pass. -/
  retry : Duration
  /-- After other failures. -/
  error : Duration

namespace RetryDelays

def standard : RetryDelays := { retry := .ofSeconds 15, error := .ofSeconds 60 }

end RetryDelays

inductive Reaction where
  | awaitChange
  | requeue (delay : Duration)
  deriving DecidableEq

namespace Reaction

def toOutcome (o : PassOutcome) : Reaction :=
  match o.requeueAfter with
  | some delay => requeue delay
  | none => awaitChange

/-- After a pass that failed. A policy at fault does not mend itself. -/
def toFailure (delays : RetryDelays) (f : Failure) : Reaction :=
  if f.isPolicyFault then awaitChange
  else requeue (if f.isRetriable then delays.retry else delays.error)

def toPass (delays : RetryDelays) (p : Pass) : Reaction :=
  match p.outcome with
  | .ok o => toOutcome o
  | .error f => toFailure delays f

end Reaction

def Metrics.recordReconcile (m : Metrics) (policy : Key) (p : Pass) : Metrics :=
  let m := m.record policy p
  if p.failure.isSome then m.recordError policy else m

end FleetHealth
