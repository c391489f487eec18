import FleetHealth.Proofs.Frame
/-!
Runs of a controller over a cluster in memory: passes of any policies at any times, between which
faults come and go. Nobody else writes.
-/

namespace FleetHealth.Cluster

open ClusterObject

inductive Event where
  | pass (policy : Key) (now : Instant)
  | fault (fault : Fault) (part : Part)

def step (c : Cluster) : Event → Cluster
  | .pass k now => (c.pass k now).2
  | .fault fault part => c.setFault fault part

def run (c : Cluster) (events : List Event) : Cluster := events.foldl step c

@[simp] theorem run_nil (c : Cluster) : c.run [] = c := rfl

@[simp] theorem run_cons (c : Cluster) (event : Event) (events : List Event) :
    c.run (event :: events) = (c.step event).run events := rfl

theorem run_append (c : Cluster) (before after : List Event) :
    c.run (before ++ after) = (c.run before).run after :=
  List.foldl_append

variable {c : Cluster}

theorem Sound.step (sound : c.Sound) (event : Event) : (c.step event).Sound := by
  cases event with
  | pass k now => exact sound.pass k now
  | fault fault part => exact sound.setFault fault part

theorem Sound.run (sound : c.Sound) (events : List Event) : (c.run events).Sound := by
  induction events generalizing c with
  | nil => exact sound
  | cons event events ih => exact ih (sound.step event)

theorem frame_step (sound : c.Sound) (event : Event) : Frame c (c.step event) := by
  cases event with
  | pass k now => exact frame_pass sound k now
  | fault fault part => exact .setFault c fault part

theorem frame_run (sound : c.Sound) (events : List Event) : Frame c (c.run events) := by
  induction events generalizing c with
  | nil => exact .refl c
  | cons event events ih => exact (frame_step sound event).trans (ih (sound.step event))

/-! A small cluster. Its policy has no rules and selects all machines of its namespace: a new
machine without a node, and a master and a worker that have both failed. -/

namespace Sample

def metadata (ns : Option String) (name : String) : Metadata :=
  { Metadata.blank with ns, name := some name, resourceVersion := some "7" }

def policy : Policy where
  metadata := metadata (some "fleet") "all"
  spec := { selector := default, rules := [] }

def masters : Policy where
  metadata := metadata (some "fleet") "masters"
  spec := {
    selector := {
      matchLabels := some (Table.ofList [(Machine.roleLabel, Machine.masterRole)])
      matchExpressions := none }
    rules := [] }

def fresh : Machine where
  metadata := metadata (some "fleet") "fresh"
  providerID := none
  providerSpec := none
  status := none

def waiting : Machine :=
  { fresh with status := some {
      nodeRef := none, lastUpdated := some .epoch, phase := none, errorReason := none
      errorMessage := none } }

def failed (name node : String) (labels : Option Labels) : Machine where
  metadata := { metadata (some "fleet") name with
    labels
    ownerReferences := some [{
      kind := "MachineSet", name := "set", uid := "", apiVersion := "", controller := none
      blockOwnerDeletion := none }] }
  providerID := none
  providerSpec := none
  status := some {
    nodeRef := some { name := node, kind := none, uid := none, apiVersion := none }
    lastUpdated := none
    phase := some "Failed"
    errorReason := none
    errorMessage := none }

def master : Machine :=
  failed "master" "n0" (some (Table.ofList [(Machine.roleLabel, Machine.masterRole)]))

def worker : Machine := failed "worker" "n1" none

def node (name : String) : Node where
  metadata := metadata none name
  spec := none
  status := none

def cluster : Cluster := .ofLists [policy] [fresh, master, worker] [] [node "n0", node "n1"]

def expiring : Cluster := .ofLists [policy] [waiting] [] []

theorem reached_cluster : cluster.Reached := reached_ofLists ..

theorem faultFree_cluster : cluster.FaultFree := faultFree_ofLists ..

theorem stored_policy : cluster.policies.objects.get? (key policy) = some policy := by decide

theorem validate_policy : policy.spec.validate = .ok () := by decide

def outcome : PassOutcome where
  requeueAfter := some nodeGracePeriod
  targets := 3
  unhealthy := 2
  remediations := [(key master, .reboot), (key worker, .replace)]

end Sample

end FleetHealth.Cluster
