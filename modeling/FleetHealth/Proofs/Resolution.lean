import FleetHealth.Health.Target
import FleetHealth.Proofs.Except
import FleetHealth.Proofs.Store.Cluster

namespace FleetHealth

open ClusterObject

namespace Cluster

def slotOf (c : Cluster) (machine : Machine) : NodeSlot :=
  match machine.nodeName? with
  | none => .absent
  | some name => match c.nodes.objects.get? (.clusterWide name) with
    | none => .missing name
    | some n => .present n

def targetOf (c : Cluster) (machine : Machine) : Target := { machine, node := c.slotOf machine }

def readTarget (c : Cluster) (machine : Machine) : Except Failure Target :=
  if machine.nodeName?.isSome ∧ c.nodes.fault = .down then .error Collection.unavailable
  else .ok (c.targetOf machine)

def targetsOf (c : Cluster) (policy : Policy) : Except Failure (List Target) := do
  let selector ← policy.spec.machineSelector
  let machines ← c.machines.list policy.metadata.ns selector
  machines.mapM c.readTarget

variable {c : Cluster} {policy : Policy} {t : Target} {ts : List Target}

theorem run_target (c : Cluster) (machine : Machine) :
    (store.target machine).run c = (c.readTarget machine, c) := by
  rw [Store.target, Store.nodeOf, readTarget, targetOf, slotOf]
  cases machine.nodeName? with
  | none => rfl
  | some name =>
    simp only [StateT.run, store, repository, Collection.get, bind, StateT.bind]
    by_cases down : c.nodes.fault = .down
    · simp [down]
      rfl
    · cases c.nodes.objects.get? (.clusterWide name) with
      | none => simp [down]; rfl
      | some n => simp [down]; rfl

theorem run_targets (c : Cluster) (machines : List Machine) :
    (store.targets machines).run c = (machines.mapM c.readTarget, c) := by
  induction machines with
  | nil => rfl
  | cons machine machines ih =>
    rw [Store.targets, run_bind, run_target, List.mapM_cons]
    cases c.readTarget machine with
    | error f => rfl
    | ok t =>
      change StateT.run (store.targets machines >>= _) c = _
      rw [run_bind, ih]
      cases machines.mapM c.readTarget <;> rfl

theorem run_resolve (c : Cluster) (policy : Policy) :
    (store.resolve policy).run c = (c.targetsOf policy, c) := by
  rw [Store.resolve, targetsOf]
  cases policy.spec.machineSelector with
  | error f => rfl
  | ok selector =>
    have listed : (store.machines.list policy.metadata.ns selector).run c =
      (c.machines.list policy.metadata.ns selector, c) := rfl
    change StateT.run (store.machines.list _ _ >>= _) c =
      (c.machines.list policy.metadata.ns selector >>= _, c)
    rw [run_bind, listed]
    cases c.machines.list policy.metadata.ns selector with
    | error f => rfl
    | ok machines => exact run_targets c machines

theorem readTarget_ok {machine : Machine} (h : c.readTarget machine = .ok t) :
    t = c.targetOf machine := by
  rw [readTarget] at h
  split at h
  · cases h
  · cases h
    rfl

theorem readTarget_error {machine : Machine} {f : Failure} (h : c.readTarget machine = .error f) :
    f = Collection.unavailable := by
  rw [readTarget] at h
  split at h
  · cases h
    rfl
  · cases h

theorem targetsOf_ok (h : c.targetsOf policy = .ok ts) :
    ∃ selector, policy.spec.machineSelector = .ok selector ∧
      ts = (c.machines.selected policy.metadata.ns selector).map c.targetOf := by
  obtain ⟨selector, checked, h⟩ := bind_eq_ok h
  obtain ⟨machines, listed, h⟩ := bind_eq_ok h
  refine ⟨selector, checked, ?_⟩
  rw [← Collection.list_ok listed]
  have read : List.Forall₂ (· = ·) _ ts := List.forall₂_map_left_iff.mpr
    ((mapM_eq_ok h).imp fun _ _ ok => (readTarget_ok ok).symm)
  rw [List.forall₂_eq_eq_eq] at read
  exact read.symm

structure Selects (c : Cluster) (policy : Policy) (machine : Machine) : Prop where
  stored : c.machines.objects.get? (key machine) = some machine
  inNamespace : ∀ ns, policy.metadata.ns = some ns → machine.metadata.ns = some ns
  matched : ∃ selector, policy.spec.machineSelector = .ok selector ∧
    selector.selects machine.metadata.labels = true

theorem mem_targetsOf (sound : c.Sound) (h : c.targetsOf policy = .ok ts) (mem : t ∈ ts) :
    t = c.targetOf t.machine ∧ c.Selects policy t.machine := by
  obtain ⟨selector, checked, rfl⟩ := targetsOf_ok h
  obtain ⟨machine, selected, rfl⟩ := List.mem_map.mp mem
  obtain ⟨k, stored, inNs, selects⟩ := Collection.mem_selected.mp selected
  have own : key machine = k := sound.machines.keyed stored
  refine ⟨rfl, by rw [← own] at stored; exact stored, ?_, selector, checked, selects⟩
  intro ns eq
  rw [← own] at inNs
  exact inNs ns eq

theorem nodup_targetsOf (sound : c.Sound) (h : c.targetsOf policy = .ok ts) :
    (ts.map Target.key).Nodup := by
  obtain ⟨selector, -, rfl⟩ := targetsOf_ok h
  rw [List.map_map]
  exact sound.machines.nodup_selected _ _

theorem node?_slotOf (c : Cluster) (machine : Machine) :
    (c.slotOf machine).node? =
      machine.nodeName?.bind fun name => c.nodes.objects.get? (.clusterWide name) := by
  rw [slotOf]
  cases machine.nodeName? with
  | none => rfl
  | some name =>
    dsimp only [Option.bind_some]
    cases c.nodes.objects.get? (.clusterWide name) <;> rfl

theorem get?_of_slotOf {machine : Machine} {n : Node} (sound : c.Sound)
    (h : c.slotOf machine = .present n) : c.nodes.objects.get? (key n) = some n := by
  have node := c.node?_slotOf machine
  rw [h] at node
  obtain ⟨name, -, found⟩ := Option.bind_eq_some_iff.mp node.symm
  rw [sound.nodes.keyed found, found]

end Cluster

end FleetHealth
