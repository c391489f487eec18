import FleetHealth.Routing
import FleetHealth.Proofs.Success

namespace FleetHealth

open ClusterObject

theorem Policy.concerns_iff {policy : Policy} {machine : Machine} :
    policy.concerns machine = true ↔ policy.metadata.ns = machine.metadata.ns ∧
      ∃ selector, policy.spec.machineSelector = .ok selector ∧
        selector.selects machine.metadata.labels = true := by
  rw [concerns, Bool.and_eq_true, decide_eq_true_iff]
  cases policy.spec.machineSelector with
  | error f => simp
  | ok selector => simp

theorem Machine.mem_routes {machine : Machine} {policies : List Policy} {k : Key} :
    k ∈ machine.routes policies ↔
      ∃ policy ∈ policies, policy.concerns machine = true ∧ key policy = k := by
  simp [routes, and_assoc]

namespace Cluster

def HasTarget (c : Cluster) (policy : Policy) (machine : Machine) : Prop :=
  ∃ targets, (store.resolve policy).run c = (.ok targets, c) ∧ ∃ t ∈ targets, t.machine = machine

variable {c : Cluster} {policy : Policy} {machine : Machine} {k km : Key}

theorem mem_routes_stored (sound : c.policies.Sound)
    (stored : c.policies.objects.get? k = some policy) :
    key policy ∈ machine.routes c.policies.objects.values ↔ policy.concerns machine = true := by
  rw [Machine.mem_routes]
  constructor
  · rintro ⟨other, mem, concerned, same⟩
    obtain ⟨k', found⟩ := Table.mem_values_iff.mp mem
    rw [← sound.keyed found, same, sound.keyed stored, stored] at found
    cases found
    exact concerned
  · intro concerned
    exact ⟨policy, Table.mem_values_iff.mpr ⟨k, stored⟩, concerned, rfl⟩

theorem FaultFree.hasTarget_iff (faultFree : c.FaultFree) (sound : c.Sound) :
    c.HasTarget policy machine ↔ c.Selects policy machine := by
  constructor
  · rintro ⟨targets, resolved, t, mem, rfl⟩
    rw [run_resolve] at resolved
    exact (mem_targetsOf sound (Prod.mk.inj resolved).1 mem).2
  · rintro ⟨stored, inNamespace, selector, checked, selects⟩
    refine ⟨_, by rw [run_resolve, faultFree.targetsOf checked], c.targetOf machine, ?_, rfl⟩
    exact List.mem_map_of_mem
      (Collection.mem_selected.mpr ⟨key machine, stored, inNamespace, selects⟩)

theorem concerns_iff_selects (stored : c.machines.objects.get? (key machine) = some machine) :
    policy.concerns machine = true ↔ c.Selects policy machine ∧
      (policy.metadata.ns = none → machine.metadata.ns = none) := by
  rw [Policy.concerns_iff]
  constructor
  · rintro ⟨same, selector⟩
    exact ⟨⟨stored, fun ns named => same ▸ named, selector⟩, fun unnamed => same ▸ unnamed⟩
  · rintro ⟨selected, unnamed⟩
    refine ⟨?_, selected.matched⟩
    cases named : policy.metadata.ns with
    | none => exact (unnamed named).symm
    | some ns => exact (selected.inNamespace ns named).symm

/-- A stored machine is routed to a stored policy if and only if it is among the targets of that
policy, unless the policy belongs to no namespace and the machine does. -/
theorem routed_iff_hasTarget (reached : c.Reached) (faultFree : c.FaultFree)
    (policyStored : c.policies.objects.get? k = some policy)
    (machineStored : c.machines.objects.get? km = some machine) :
    key policy ∈ machine.routes c.policies.objects.values ↔
      c.HasTarget policy machine ∧ (policy.metadata.ns = none → machine.metadata.ns = none) := by
  have own : key machine = km := reached.sound.machines.keyed machineStored
  rw [mem_routes_stored reached.policies.sound policyStored,
    faultFree.hasTarget_iff reached.sound, concerns_iff_selects (own ▸ machineStored)]

theorem sample_routed_iff_hasTarget :
    (Sample.cluster.Reached ∧ Sample.cluster.FaultFree ∧
      Sample.cluster.policies.objects.get? (key Sample.policy) = some Sample.policy ∧
      Sample.cluster.machines.objects.get? (key Sample.worker) = some Sample.worker) ∧
    key Sample.policy ∈ Sample.worker.routes Sample.cluster.policies.objects.values ∧
      Sample.cluster.HasTarget Sample.policy Sample.worker := by
  have stored : Sample.cluster.machines.objects.get? (key Sample.worker) = some Sample.worker := by
    decide
  have routed : key Sample.policy ∈
      Sample.worker.routes Sample.cluster.policies.objects.values := by decide
  refine ⟨⟨Sample.reached_cluster, Sample.faultFree_cluster, Sample.stored_policy, stored⟩,
    routed, ?_⟩
  exact ((routed_iff_hasTarget Sample.reached_cluster Sample.faultFree_cluster Sample.stored_policy
    stored).mp routed).1

namespace Sample

def everywhere : Policy where
  metadata := metadata none "everywhere"
  spec := { selector := default, rules := [] }

def unrouted : Cluster := .ofLists [everywhere] [worker] [] [node "n1"]

end Sample

/-- A policy without a namespace has the worker for a target, and yet no change of the worker is
routed to it. -/
theorem unrouted_worker_is_target :
    Sample.unrouted.Reached ∧ Sample.unrouted.FaultFree ∧
      Sample.unrouted.policies.objects.get? (key Sample.everywhere) = some Sample.everywhere ∧
      Sample.unrouted.machines.objects.get? (key Sample.worker) = some Sample.worker ∧
      key Sample.everywhere ∉ Sample.worker.routes Sample.unrouted.policies.objects.values ∧
      Sample.unrouted.HasTarget Sample.everywhere Sample.worker := by
  have resolved : Sample.unrouted.targetsOf Sample.everywhere =
      .ok [Sample.unrouted.targetOf Sample.worker] := by decide
  exact ⟨reached_ofLists .., faultFree_ofLists .., by decide, by decide, by decide,
    _, by rw [run_resolve, resolved], _, List.mem_singleton_self _, rfl⟩

end Cluster

end FleetHealth
