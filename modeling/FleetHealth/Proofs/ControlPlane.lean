import FleetHealth.Proofs.Run

namespace FleetHealth.Cluster

open ClusterObject

structure Removable (c : Cluster) (policy : Policy) (now : Instant) (machine : Machine) : Prop where
  notMaster : machine.metadata.label? Machine.roleLabel ≠ some Machine.masterRole
  unmarkedNode : ∀ name n, machine.nodeName? = some name →
    c.nodes.objects.get? (.clusterWide name) = some n →
    n.metadata.label? Node.masterLabel = none ∧ n.metadata.label? Node.controlPlaneLabel = none
  owned : ∃ owner ∈ machine.metadata.ownerReferences.getD [], owner.kind = Machine.setKind
  selected : c.Selects policy machine
  unhealthy : ∃ v, (c.targetOf machine).evaluate policy.spec.rules now = .ok v ∧
    v.isUnhealthy = true

variable {c : Cluster} {policy : Policy} {machine : Machine} {now : Instant}

theorem plan_eq_replace_iff {t : Target} :
    t.plan = .replace ↔ t.isControlPlane = false ∧ t.machine.hasMachineSetOwner = true := by
  rw [Target.plan]
  split
  · rename_i control
    split <;> simp [control]
  · rename_i worker
    split <;> simp_all

theorem Removable.not_controlPlane (h : c.Removable policy now machine) :
    (c.targetOf machine).isControlPlane = false := by
  have worker : machine.isControlPlane = false := by
    simpa [Machine.isControlPlane] using h.notMaster
  simp only [Target.isControlPlane, targetOf, worker, Bool.false_or, node?_slotOf]
  cases name : machine.nodeName? with
  | none => rfl
  | some nodeName =>
    cases found : c.nodes.objects.get? (.clusterWide nodeName) with
    | none => simp [found]
    | some n =>
      obtain ⟨noMaster, noControl⟩ := h.unmarkedNode nodeName n name found
      simp [found, Node.isControlPlane, noMaster, noControl]

theorem removable_of_plan (selected : c.Selects policy machine)
    (plan : (c.targetOf machine).plan = .replace) {v : Verdict}
    (judged : (c.targetOf machine).evaluate policy.spec.rules now = .ok v)
    (unhealthy : v.isUnhealthy = true) : c.Removable policy now machine := by
  obtain ⟨worker, owned⟩ := plan_eq_replace_iff.mp plan
  simp only [Target.isControlPlane, targetOf, Bool.or_eq_false_iff, node?_slotOf] at worker owned
  obtain ⟨notMaster, node⟩ := worker
  refine ⟨by simpa [Machine.isControlPlane] using notMaster, ?_, ?_, selected, v, judged, unhealthy⟩
  · intro name n named found
    simpa [named, found, Node.isControlPlane] using node
  · simpa [Machine.hasMachineSetOwner, Metadata.hasOwnerOfKind] using owned

theorem get?_of_executed {c' : Cluster} {t : Target} {km : Key} (executed : c.Executed t c')
    (other : t.plan = .replace → t.key ≠ km)
    (stored : c.machines.objects.get? km = some machine) :
    c'.machines.objects.get? km = some machine := by
  cases executed with
  | settled eq =>
    have machines : c'.machines.objects = c.machines.objects := congrArg (·.machines.objects) eq
    rw [machines, stored]
  | deleted plan =>
    change (c.machines.objects.erase t.key).get? km = _
    rw [Table.get?_erase_of_ne _ (other plan).symm, stored]
  | rebooted _ _ _ => exact stored

theorem mem_unhealthyTargets_of_removed {k km : Key}
    (stored : c.machines.objects.get? km = some machine)
    (removed : (c.pass k now).2.machines.objects.get? km ≠ some machine) :
    ∃ survey, c.survey k now = .ok (some survey) ∧
      ∃ t ∈ unhealthyTargets survey, t.plan = .replace ∧ t.key = km := by
  by_contra others
  simp only [not_exists, not_and] at others
  apply removed
  refine pass_induction (P := fun c' => c'.machines.objects.get? km = some machine) ?_ stored
  intro survey surveyed t mem c₁ r c₂ kept result
  exact get?_of_executed (executed_of_execute result) (others survey surveyed t mem) kept

theorem removable_of_removed {k km : Key} (sound : c.Sound)
    (stored : c.machines.objects.get? km = some machine)
    (removed : (c.pass k now).2.machines.objects.get? km ≠ some machine) :
    ∃ policy, c.policies.objects.get? k = some policy ∧ c.Removable policy now machine := by
  obtain ⟨survey, surveyed, t, mem, plan, rfl⟩ := mem_unhealthyTargets_of_removed stored removed
  obtain ⟨policy, found, -, surveyed⟩ := survey_ok surveyed
  obtain ⟨v, judged, unhealthy⟩ := mem_unhealthyTargets.mp mem
  obtain ⟨resolved, selected⟩ := selects_of_mem_unhealthyTargets sound surveyed mem
  have same : t.machine = machine := by
    have own : c.machines.objects.get? t.key = some t.machine := selected.stored
    rw [stored] at own
    exact (Option.some.inj own).symm
  have judged := evaluate_of_mem_surveyOf surveyed judged
  rw [resolved, same] at plan judged
  exact ⟨policy, found, removable_of_plan (same ▸ selected) plan judged unhealthy⟩

theorem get?_step_of_controlPlane {km : Key} (sound : c.Sound)
    (stored : c.machines.objects.get? km = some machine)
    (control : (c.targetOf machine).isControlPlane = true) (event : Event) :
    (c.step event).machines.objects.get? km = some machine := by
  cases event with
  | fault fault part => cases part <;> cases fault <;> exact stored
  | pass k now =>
    by_contra removed
    obtain ⟨policy, -, removable⟩ := removable_of_removed sound stored removed
    rw [removable.not_controlPlane] at control
    cases control

theorem get?_run_of_controlPlane {km : Key} (sound : c.Sound)
    (stored : c.machines.objects.get? km = some machine)
    (control : (c.targetOf machine).isControlPlane = true) (events : List Event) :
    (c.run events).machines.objects.get? km = some machine := by
  induction events generalizing c with
  | nil => exact stored
  | cons event events ih =>
    -- nodes keep their labels, so the machine is as much of the control plane as before
    have control' : ((c.step event).targetOf machine).isControlPlane = true := by
      rw [(frame_step sound event).isControlPlane_targetOf, control]
    exact ih (sound.step event) (get?_step_of_controlPlane sound stored control event) control'

/-- Whatever a pass of a run removes is removable in front of that pass; in particular, what belongs
to the control plane in the beginning is never removed. -/
theorem run_spares_controlPlane (reached : c.Reached) (events : List Event) :
    (∀ before k now after, events = before ++ .pass k now :: after → ∀ km machine,
      (c.run before).machines.objects.get? km = some machine →
      (c.run (before ++ [.pass k now])).machines.objects.get? km ≠ some machine →
      ∃ policy, (c.run before).policies.objects.get? k = some policy ∧
        (c.run before).Removable policy now machine) ∧
    ∀ km machine, c.machines.objects.get? km = some machine →
      (c.targetOf machine).isControlPlane = true →
      (c.run events).machines.objects.get? km = some machine := by
  refine ⟨?_, fun km machine stored control =>
    get?_run_of_controlPlane reached.sound stored control events⟩
  intro before k now after _ km machine stored removed
  rw [run_append] at removed
  exact removable_of_removed (reached.sound.run before) stored removed

/-- In a run that begins while machines cannot be deleted the worker goes in the second pass, for
the reasons that it is removable for, and the master stays. -/
theorem sample_run_spares_master :
    Sample.cluster.Reached ∧
      let events : List Event := [.fault (.writes .conflict) .machines,
        .pass (key Sample.policy) .epoch, .fault .none .machines, .pass (key Sample.policy) .epoch]
      (Sample.cluster.run events).machines.objects.get? (key Sample.worker) = none ∧
        (∃ policy, (Sample.cluster.run (events.take 3)).policies.objects.get? (key Sample.policy) =
            some policy ∧
          (Sample.cluster.run (events.take 3)).Removable policy .epoch Sample.worker) ∧
        (Sample.cluster.run events).machines.objects.get? (key Sample.master) =
          some Sample.master := by
  have safe := run_spares_controlPlane Sample.reached_cluster
    [.fault (.writes .conflict) .machines, .pass (key Sample.policy) .epoch, .fault .none .machines,
      .pass (key Sample.policy) .epoch]
  refine ⟨Sample.reached_cluster, by decide, ?_, ?_⟩
  · exact safe.1 _ (key Sample.policy) .epoch [] rfl (key Sample.worker) Sample.worker (by decide)
      (by decide)
  · exact safe.2 (key Sample.master) Sample.master (by decide) (by decide)

end FleetHealth.Cluster
