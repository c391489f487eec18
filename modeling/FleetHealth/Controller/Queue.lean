import FleetHealth.Object.Key
import FleetHealth.Table
import FleetHealth.Time.Duration
/-!
The queue of passes: for each policy the time at which its next pass is due, in milliseconds since
the controller was started. A policy is in the queue once, with the earliest of its times.
-/

namespace FleetHealth

abbrev PassQueue := Table Key Nat

namespace PassQueue

def schedule (q : PassQueue) (k : Key) (time : Nat) : PassQueue :=
  q.insert k (min time ((q.get? k).getD time))

def scheduleAll (q : PassQueue) (ks : List Key) (time : Nat) : PassQueue :=
  ks.foldl (·.schedule · time) q

def earlier (a b : Key × Nat) : Key × Nat := if b.2 < a.2 then b else a

/-- The policy whose pass is due first, in the order of keys if there are several, if that is before
a deadline. -/
def next? (q : PassQueue) (deadline : Nat) : Option (Key × Nat) :=
  match q.toList with
  | [] => none
  | e :: es =>
    let first := es.foldl earlier e
    if first.2 < deadline then some first else none

end PassQueue

/-- A duration in milliseconds, of which one that was begun counts. -/
def Duration.milliseconds (d : Duration) : Nat := (d.nanos + 999999) / 1000000

end FleetHealth
