import FleetHealth.Proofs.Effect

namespace FleetHealth

open ClusterObject

namespace Cluster

variable {c c' : Cluster} {t : Target} {n stored : Node} {a : RemediationAction}

theorem get?_withNodeRebooted (c : Cluster) (stored n : Node) :
    (c.withNodeRebooted stored n).nodes.objects.get? (key n) =
      some (Collection.successor stored n.requestReboot) :=
  Table.get?_insert_self _ _ _

theorem withNodeRebooted_ne (c : Cluster) (stored n : Node) : c.withNodeRebooted stored n ≠ c := by
  intro eq
  have writes : c.nodes.writes + 1 = c.nodes.writes := congrArg (·.nodes.writes) eq
  exact Nat.succ_ne_self _ writes

theorem eq_withNodeRebooted_of_execute_ok (node : t.nodeToReboot? = some n)
    (done : c.execute t = (.ok (), c')) :
    ∃ stored, Collection.isStale stored n.requestReboot = false ∧
      c' = c.withNodeRebooted stored n := by
  cases remediated_of_execute_ok done with
  | idle _ idle =>
    rw [idle] at node
    cases node
  | deleted plan => exact absurd plan (Target.plan_ne_replace_of_node node)
  | gone plan => exact absurd plan (Target.plan_ne_replace_of_node node)
  | @rebooted n' stored node' _ _ fresh =>
    cases node'.symm.trans node
    exact ⟨stored, fresh, rfl⟩

theorem FaultFree.remediate_unasked_again (faultFree : c.FaultFree)
    (ok : c.remediate t = (.ok a, c')) (unasked : t.nodeToReboot? = none) :
    c'.remediate t = (.ok a, c') := by
  obtain ⟨rfl, done⟩ := remediate_ok_iff.mp ok
  have faultFree' := faultFree.execute done
  refine remediate_ok_iff.mpr ⟨rfl, ?_⟩
  cases remediated_of_execute_ok done with
  | idle notReplace idle => exact execute_idle c' notReplace idle
  | deleted plan =>
    apply faultFree'.execute_gone plan
    simp [withMachineDeleted, Table.contains, Table.get?_erase]
  | gone plan missing settled =>
    apply faultFree'.execute_gone plan
    have machines : c'.machines.objects = c.machines.objects :=
      congrArg (·.machines.objects) settled
    rw [machines, missing faultFree.machines]
  | rebooted node =>
    rw [unasked] at node
    cases node

theorem FaultFree.remediate_asked_again (faultFree : c.FaultFree)
    (ok : c.remediate t = (.ok a, c')) (node : t.nodeToReboot? = some n)
    (versioned : n.metadata.resourceVersion.isSome = true) :
    c'.remediate t = (.error (.conflict Node.kind.kind (shownName n)), c') := by
  have done := (remediate_ok_iff.mp ok).2
  obtain ⟨stored, fresh, eq⟩ := eq_withNodeRebooted_of_execute_ok node done
  have faultFree' := faultFree.execute done
  subst eq
  exact remediate_error_iff.mpr (faultFree'.execute_stale node (c.get?_withNodeRebooted stored n)
    (Collection.isStale_successor versioned fresh))

theorem FaultFree.remediate_unversioned_again (faultFree : c.FaultFree)
    (ok : c.remediate t = (.ok a, c')) (node : t.nodeToReboot? = some n)
    (unversioned : n.metadata.resourceVersion = none) :
    ∃ stored, c'.nodes.objects.get? (key n) = some stored ∧
      c'.remediate t = (.ok a, c'.withNodeRebooted stored n) := by
  obtain ⟨rfl, done⟩ := remediate_ok_iff.mp ok
  obtain ⟨stored, -, eq⟩ := eq_withNodeRebooted_of_execute_ok node done
  have faultFree' := faultFree.execute done
  subst eq
  have found := c.get?_withNodeRebooted stored n
  exact ⟨_, found, remediate_ok_iff.mpr ⟨rfl, faultFree'.execute_fresh node found
    (Collection.isStale_of_unversioned _ unversioned)⟩⟩

/-- Remediation is idempotent for all targets but those that it has asked a node to reboot for. With
such a target it meets its own request: if the target has a version of the node, that is stale by
now, and if it has none, the node is written once more. -/
theorem remediate_again (faultFree : c.FaultFree) (ok : c.remediate t = (.ok a, c')) :
    (c'.remediate t = (.ok a, c') ↔ t.nodeToReboot? = none) ∧
      ∀ n, t.nodeToReboot? = some n →
        (n.metadata.resourceVersion.isSome = true →
          c'.remediate t = (.error (.conflict Node.kind.kind (shownName n)), c')) ∧
        (n.metadata.resourceVersion = none → ∃ stored,
          c'.nodes.objects.get? (key n) = some stored ∧
            c'.remediate t = (.ok a, c'.withNodeRebooted stored n)) := by
  refine ⟨⟨?_, faultFree.remediate_unasked_again ok⟩, fun n node =>
    ⟨faultFree.remediate_asked_again ok node, faultFree.remediate_unversioned_again ok node⟩⟩
  intro again
  cases node : t.nodeToReboot? with
  | none => rfl
  | some n =>
    cases version : n.metadata.resourceVersion with
    | some v =>
      rw [faultFree.remediate_asked_again ok node (by rw [version]; rfl)] at again
      cases again
    | none =>
      obtain ⟨stored, -, twice⟩ := faultFree.remediate_unversioned_again ok node version
      rw [again] at twice
      exact absurd (Prod.mk.inj twice).2.symm (c'.withNodeRebooted_ne stored n)

theorem sample_remediate_again :
    Sample.cluster.FaultFree ∧
      Sample.cluster.remediate (Sample.cluster.targetOf Sample.worker) =
        (.ok .replace, Sample.cluster.withMachineDeleted (key Sample.worker)) ∧
      (Sample.cluster.withMachineDeleted (key Sample.worker)).remediate
          (Sample.cluster.targetOf Sample.worker) =
        (.ok .replace, Sample.cluster.withMachineDeleted (key Sample.worker)) := by
  have ok : Sample.cluster.remediate (Sample.cluster.targetOf Sample.worker) =
      (.ok .replace, Sample.cluster.withMachineDeleted (key Sample.worker)) := by decide
  exact ⟨Sample.faultFree_cluster, ok,
    (remediate_again Sample.faultFree_cluster ok).1.mpr (by decide)⟩

/-- Its master is not asked to reboot a second time, but that is no success. -/
theorem master_remediate_again_conflicts :
    Sample.cluster.FaultFree ∧
      Sample.cluster.remediate (Sample.cluster.targetOf Sample.master) =
        (.ok .reboot, Sample.cluster.withNodeRebooted (Sample.node "n0") (Sample.node "n0")) ∧
      ((Sample.cluster.withNodeRebooted (Sample.node "n0") (Sample.node "n0")).remediate
          (Sample.cluster.targetOf Sample.master)).1 = .error (.conflict "Node" "n0") :=
  ⟨Sample.faultFree_cluster, by decide, by decide⟩

end Cluster

end FleetHealth
