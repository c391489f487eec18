import FleetHealth.Proofs.Pass

namespace FleetHealth

open ClusterObject

def Node.rebooted (n : Node) : Node := Collection.successor n n.requestReboot

@[simp] theorem Node.key_requestReboot (n : Node) : key n.requestReboot = key n := rfl

@[simp] theorem Node.key_rebooted (n : Node) : key n.rebooted = key n := by
  simp [Node.rebooted]

theorem Node.hasRebootRequest_rebooted (n : Node) : n.rebooted.hasRebootRequest = true := by
  change ((n.metadata.annotate _ _).annotation? _).isSome = true
  simp [Metadata.annotate, Metadata.annotation?]

theorem Node.hasRebootRequest_eq_false_iff {n : Node} : n.hasRebootRequest = false ↔
    n.metadata.annotation? "healthchecking.openshift.io/machine-remediation-reboot" = none := by
  rw [Node.hasRebootRequest, Option.isSome_eq_false_iff, Option.isNone_iff_eq_none]
  rfl

/-- A node with a request to reboot and a version of its own, and otherwise the same. -/
structure Node.Requested (n n' : Node) : Prop where
  request :
    n'.metadata.annotation? "healthchecking.openshift.io/machine-remediation-reboot" = some ""
  others : ∀ name, name ≠ "healthchecking.openshift.io/machine-remediation-reboot" →
    n'.metadata.annotation? name = n.metadata.annotation? name
  rest : ∃ annotations version,
    n' = { n with metadata := { n.metadata with annotations, resourceVersion := version } }

theorem Node.requested_rebooted (n : Node) : n.Requested n.rebooted where
  request := Table.get?_insert_self ..
  others _ ne := Table.get?_insert_of_ne _ _ ne
  rest := ⟨_, _, rfl⟩

theorem Node.rebooted_ne {n : Node} (unasked : n.hasRebootRequest = false) : n.rebooted ≠ n := by
  intro eq
  have asked := n.hasRebootRequest_rebooted
  rw [eq, unasked] at asked
  cases asked

inductive Node.Kept (n : Node) : Node → Prop
  | same : Kept n n
  | rebooted : n.hasRebootRequest = false → Kept n n.rebooted

theorem Node.Kept.trans {n₁ n₂ n₃ : Node} (h : n₁.Kept n₂) (h' : n₂.Kept n₃) : n₁.Kept n₃ := by
  cases h with
  | same => exact h'
  | rebooted unasked =>
    cases h' with
    | same => exact .rebooted unasked
    | rebooted unasked' =>
      rw [n₁.hasRebootRequest_rebooted] at unasked'
      cases unasked'

theorem Node.Kept.isControlPlane_eq {n n' : Node} (h : n.Kept n') :
    n'.isControlPlane = n.isControlPlane := by
  cases h <;> rfl

theorem Node.isStale_requestReboot (n : Node) : Collection.isStale n n.requestReboot = false := by
  change (_ && (n.metadata.resourceVersion != n.metadata.resourceVersion)) = false
  simp

theorem Node.isStale_rebooted {n : Node} (versioned : n.metadata.resourceVersion.isSome = true) :
    Collection.isStale n.rebooted n.requestReboot = true :=
  Collection.isStale_successor versioned n.isStale_requestReboot

namespace Cluster

structure Frame (c c' : Cluster) : Prop where
  policies : c'.policies.objects = c.policies.objects
  machineSets : c'.machineSets.objects = c.machineSets.objects
  machines : ∀ {k m}, c'.machines.objects.get? k = some m → c.machines.objects.get? k = some m
  nodes : ∀ k, Option.Rel Node.Kept (c.nodes.objects.get? k) (c'.nodes.objects.get? k)

theorem Frame.of_objects_eq {c c' : Cluster} (policies : c'.policies.objects = c.policies.objects)
    (machines : c'.machines.objects = c.machines.objects)
    (machineSets : c'.machineSets.objects = c.machineSets.objects)
    (nodes : c'.nodes.objects = c.nodes.objects) : Frame c c' where
  policies := policies
  machineSets := machineSets
  machines := by simp [machines]
  nodes k := by
    rw [nodes]
    cases c.nodes.objects.get? k with
    | none => exact .none
    | some n => exact .some .same

theorem Frame.refl (c : Cluster) : Frame c c := .of_objects_eq rfl rfl rfl rfl

theorem Frame.trans {c₁ c₂ c₃ : Cluster} (h : Frame c₁ c₂) (h' : Frame c₂ c₃) : Frame c₁ c₃ where
  policies := h'.policies.trans h.policies
  machineSets := h'.machineSets.trans h.machineSets
  machines found := h.machines (h'.machines found)
  nodes k := by
    have first := h.nodes k
    have second := h'.nodes k
    generalize c₁.nodes.objects.get? k = n₁ at first
    generalize c₂.nodes.objects.get? k = n₂ at first second
    generalize c₃.nodes.objects.get? k = n₃ at second
    cases first with
    | none =>
      cases second
      exact .none
    | some kept =>
      cases second with
      | some kept' => exact .some (kept.trans kept')

theorem Frame.of_settled_eq {c c' : Cluster} (eq : c'.settled = c.settled) : Frame c c' :=
  .of_objects_eq (congrArg (·.policies.objects) eq :) (congrArg (·.machines.objects) eq :)
    (congrArg (·.machineSets.objects) eq :) (congrArg (·.nodes.objects) eq :)

theorem Frame.setFault (c : Cluster) (fault : Fault) (part : Part) :
    Frame c (c.setFault fault part) := by
  cases part <;> cases fault <;> exact .of_objects_eq rfl rfl rfl rfl

variable {c c' : Cluster}

theorem Frame.slotOf (h : Frame c c') (machine : Machine) :
    (c'.slotOf machine).node?.any Node.isControlPlane =
      (c.slotOf machine).node?.any Node.isControlPlane := by
  rw [node?_slotOf, node?_slotOf]
  cases machine.nodeName? with
  | none => rfl
  | some name =>
    have node := h.nodes (.clusterWide name)
    dsimp only [Option.bind_some]
    generalize c.nodes.objects.get? (.clusterWide name) = n at node
    generalize c'.nodes.objects.get? (.clusterWide name) = n' at node
    cases node with
    | none => rfl
    | some kept => exact kept.isControlPlane_eq

theorem Frame.isControlPlane_targetOf (h : Frame c c') (machine : Machine) :
    (c'.targetOf machine).isControlPlane = (c.targetOf machine).isControlPlane := by
  simp only [Target.isControlPlane, targetOf]
  rw [h.slotOf]

/-- A node that is written for the sake of a target is the one that the target was resolved with. -/
theorem Frame.eq_of_fresh {n stored : Node} (h : Frame c c') (sound : c.Sound)
    (node : c.nodes.objects.get? (key n) = some n)
    (found : c'.nodes.objects.get? (key n) = some stored)
    (fresh : Collection.isStale stored n.requestReboot = false) : stored = n := by
  have kept := h.nodes (key n)
  rw [node, found] at kept
  cases kept with
  | some kept =>
    cases kept with
    | same => rfl
    | rebooted _ =>
      rw [Node.isStale_rebooted (sound.nodes.versioned node)] at fresh
      cases fresh

theorem Frame.execute {t : Target} {r : Except Failure Unit} {c₁ c₂ : Cluster} (h : Frame c c₁)
    (sound : c.Sound) (resolved : t = c.targetOf t.machine) (result : c₁.execute t = (r, c₂)) :
    Frame c c₂ := by
  cases executed_of_execute result with
  | settled eq => exact h.trans (.of_settled_eq eq)
  | deleted _ =>
    exact ⟨h.policies, h.machineSets, fun found => h.machines (Table.get?_of_get?_erase found),
      h.nodes⟩
  | @rebooted n stored node found fresh =>
    obtain ⟨-, slot, unasked⟩ := Target.nodeToReboot?_eq_some_iff.mp node
    have own : c.nodes.objects.get? (key n) = some n := by
      rw [resolved] at slot
      exact get?_of_slotOf sound slot
    -- nobody has written the node since the target was resolved, or it would be stale
    have eq := h.eq_of_fresh sound own found fresh
    subst eq
    refine ⟨h.policies, h.machineSets, h.machines, ?_⟩
    intro k
    change Option.Rel _ _ ((c₁.nodes.objects.insert (key stored) stored.rebooted).get? k)
    by_cases eq : k = key stored
    · subst eq
      rw [own, Table.get?_insert_self]
      exact .some (.rebooted unasked)
    · rw [Table.get?_insert_of_ne _ _ eq]
      exact h.nodes k

theorem frame_pass (sound : c.Sound) (k : Key) (now : Instant) : Frame c (c.pass k now).2 := by
  refine pass_induction ?_ (Frame.refl c)
  intro survey surveyed t mem c₁ r c₂ frame result
  obtain ⟨policy, -, -, surveyed⟩ := survey_ok surveyed
  exact frame.execute sound (selects_of_mem_unhealthyTargets sound surveyed mem).1 result

end Cluster

end FleetHealth
