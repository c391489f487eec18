import FleetHealth.Proofs.ControlPlane
import FleetHealth.Proofs.LostUpdate
/-!
Deletion on the word of a stale target. Unlike a node, a machine is deleted under its key, whatever
has become of it. A pass therefore spares what belonged to the control plane when it looked, and
what others have made part of the control plane since then it may delete.
-/

namespace FleetHealth

open ClusterObject

namespace Cluster.Sample

def promoted : Machine :=
  failed "worker" "n1" (some (Table.ofList [(Machine.roleLabel, Machine.masterRole)]))

/-- A pass over the sample, with a promotion after all targets have been resolved. -/
def promotion : List Move :=
  Scene.resolution policy 3 ++ [.edit (.machine promoted), .remediate 1, .remediate 2]

end Cluster.Sample

namespace Scene

open Cluster

variable {c : Cluster} {moves : List Move} {s : Scene} {move : Move} {machine seen : Machine}
  {km kn : Key} {time : Nat}

theorem stored_of_stored_step (edits : ∀ m, move = .edit (.machine m) → key m ≠ km)
    (stored : (s.step move).cluster.machines.objects.get? km = some machine) :
    s.cluster.machines.objects.get? km = some machine := by
  cases move with
  | list policy => exact stored
  | look i => exact stored
  | edit e =>
    cases e with
    | node n => exact stored
    | machine m =>
      rw [← Collection.get?_replace_of_ne (edits m rfl).symm]
      exact stored
  | remediate i =>
    rcases s.remediated_of_step i with eq | ⟨t, -, r, c', result, eq⟩
    · rw [eq] at stored
      exact stored
    · rw [eq] at stored
      cases executed_of_execute (execute_of_remediate result) with
      | settled eq =>
        have objects : c'.machines.objects = s.cluster.machines.objects :=
          congrArg (·.machines.objects) eq
        exact objects ▸ stored
      | deleted _ => exact Table.get?_of_get?_erase stored
      | rebooted _ _ _ => exact stored

theorem machine_eq_of_unedited {listing : Nat} (le : listing ≤ time)
    (edits : ∀ edited, listing ≤ edited → edited < time →
      ∀ m, moves[edited]? = some (.edit (.machine m)) → key m ≠ km)
    (before : (moment c moves listing).cluster.machines.objects.get? km = some seen)
    (stored : (moment c moves time).cluster.machines.objects.get? km = some machine) :
    machine = seen := by
  refine moment_induction
    (P := fun _ s => s.cluster.machines.objects.get? km = some machine → machine = seen)
    le ?_ (fun kept => kept) ?_ stored
  · intro stored
    rw [before] at stored
    exact (Option.some.inj stored).symm
  · intro now move ge lt made kept stored
    -- nobody puts a machine in place but by an edit, so what is stored after a move was so before
    apply kept
    refine stored_of_stored_step ?_ stored
    rintro m rfl
    exact edits now ge lt m made

def hasControlPlaneNode (s : Scene) (kn : Key) : Bool :=
  (s.cluster.nodes.objects.get? kn).any Node.isControlPlane

theorem hasControlPlaneNode_step (edits : ∀ n, move = .edit (.node n) → key n ≠ kn)
    (outcome : ∀ t ∈ s.targets, s.cluster.NodeOutcomes t) :
    (s.step move).hasControlPlaneNode kn = s.hasControlPlaneNode kn := by
  cases move with
  | list policy => rfl
  | look i => rfl
  | edit e =>
    cases e with
    | machine m => rfl
    | node n =>
      have same := Collection.get?_replace_of_ne (c := s.cluster.nodes) (edits n rfl).symm
      exact congrArg (·.any Node.isControlPlane) same
  | remediate i =>
    by_cases changed : (s.step (.remediate i)).cluster.nodes.objects.get? kn =
      s.cluster.nodes.objects.get? kn
    · rw [hasControlPlaneNode, changed, ← hasControlPlaneNode]
    · obtain ⟨n, -, before, after⟩ := rebooted_of_remediate outcome changed
      rw [hasControlPlaneNode, hasControlPlaneNode, before, after]
      rfl

theorem hasControlPlaneNode_of_unedited {lookup : Nat} (sound : c.Sound)
    (unexhausted : Unexhausted c moves) (le : lookup ≤ time)
    (edits : ∀ edited, lookup ≤ edited → edited < time →
      ∀ n, moves[edited]? = some (.edit (.node n)) → key n ≠ kn) :
    (moment c moves time).hasControlPlaneNode kn =
      (moment c moves lookup).hasControlPlaneNode kn := by
  refine moment_induction
    (P := fun _ s => s.hasControlPlaneNode kn = (moment c moves lookup).hasControlPlaneNode kn)
    le rfl (fun kept => kept) ?_
  intro now move ge lt made kept
  rw [← kept]
  apply hasControlPlaneNode_step
  · rintro n rfl
    exact edits now ge lt n made
  · exact fun _ mem => nodeOutcome_of_mem_targets sound unexhausted mem

theorem isControlPlane_targetOf (s : Scene) (machine : Machine) :
    (s.cluster.targetOf machine).isControlPlane = (machine.isControlPlane ||
      machine.nodeName?.any fun name => s.hasControlPlaneNode (.clusterWide name)) := by
  rw [Target.isControlPlane, targetOf, node?_slotOf]
  cases machine.nodeName? <;> rfl

theorem isControlPlane_of_unedited {lookup : Nat} (sound : c.Sound)
    (unexhausted : Unexhausted c moves) (le : lookup ≤ time)
    (edits : ∀ edited, lookup ≤ edited → edited < time →
      ∀ n, moves[edited]? = some (.edit (.node n)) →
        ∀ name, machine.nodeName? = some name → key n ≠ .clusterWide name) :
    ((moment c moves time).cluster.targetOf machine).isControlPlane =
      ((moment c moves lookup).cluster.targetOf machine).isControlPlane := by
  rw [isControlPlane_targetOf, isControlPlane_targetOf]
  cases named : machine.nodeName? with
  | none => rfl
  | some name =>
    rw [Option.any_some, Option.any_some, hasControlPlaneNode_of_unedited sound unexhausted le]
    exact fun edited ge lt n move => edits edited ge lt n move name named

theorem exists_target_of_removed {i : Nat}
    (stored : s.cluster.machines.objects.get? km = some machine)
    (removed : (s.step (.remediate i)).cluster.machines.objects.get? km ≠ some machine) :
    ∃ t ∈ s.targets, t.plan = .replace ∧ t.key = km := by
  rcases s.remediated_of_step i with eq | ⟨t, mem, r, c', result, eq⟩
  · rw [eq] at removed
    exact absurd stored removed
  · refine ⟨t, mem, ?_⟩
    by_contra other
    rw [eq] at removed
    exact removed (get?_of_executed (executed_of_execute (execute_of_remediate result))
      (fun plan same => other ⟨plan, same⟩) stored)

/-- A machine of the control plane is removed only if others have changed it since it was listed, or
its node since it was looked up; what was seen of them then was a worker. -/
theorem edited_of_controlPlane_removed {i : Nat} (reached : c.Reached)
    (unexhausted : Unexhausted c moves) (move : moves[time]? = some (.remediate i))
    (stored : (moment c moves time).cluster.machines.objects.get? km = some machine)
    (control : ((moment c moves time).cluster.targetOf machine).isControlPlane = true)
    (removed : (moment c moves (time + 1)).cluster.machines.objects.get? km ≠ some machine) :
    ∃ lookup ≤ time, ∃ listing ≤ lookup, ∃ seen,
      (moment c moves listing).cluster.machines.objects.get? km = some seen ∧
      ((moment c moves lookup).cluster.targetOf seen).isControlPlane = false ∧
      ∃ edited < time,
        (listing ≤ edited ∧ ∃ m, moves[edited]? = some (.edit (.machine m)) ∧ key m = km) ∨
        (lookup ≤ edited ∧ ∃ n, moves[edited]? = some (.edit (.node n)) ∧
          ∃ name, machine.nodeName? = some name ∧ key n = .clusterWide name) := by
  rw [moment_succ move] at removed
  obtain ⟨t, mem, plan, rfl⟩ := exists_target_of_removed stored removed
  obtain ⟨lookup, le, listing, sooner, listed, seen⟩ := resolved_of_mem_targets reached.sound mem
  have worker : ((moment c moves lookup).cluster.targetOf t.machine).isControlPlane = false := by
    rw [← seen]
    exact (plan_eq_replace_iff.mp plan).1
  refine ⟨lookup, le, listing, sooner, t.machine, listed, worker, ?_⟩
  -- if nobody had changed either, the target would still be seen as the worker that it was
  by_contra unedited
  have sameMachine : machine = t.machine := by
    refine machine_eq_of_unedited (Nat.le_trans sooner le) ?_ listed stored
    intro edited ge lt m move eq
    exact unedited ⟨edited, lt, .inl ⟨ge, m, move, eq⟩⟩
  rw [isControlPlane_of_unedited reached.sound unexhausted le, sameMachine, worker] at control
  · cases control
  · intro edited ge lt n move name named eq
    exact unedited ⟨edited, lt, .inr ⟨ge, n, move, name, named, eq⟩⟩

/-- The promotion of the worker falls between its listing and its removal. -/
theorem sample_edited_of_controlPlane_removed :
    (Sample.cluster.Reached ∧ Unexhausted Sample.cluster Sample.promotion ∧
      Sample.promotion[6]? = some (.remediate 2) ∧
      (moment Sample.cluster Sample.promotion 6).cluster.machines.objects.get? (key Sample.worker) =
        some (Collection.successor Sample.worker Sample.promoted) ∧
      ((moment Sample.cluster Sample.promotion 6).cluster.targetOf
        (Collection.successor Sample.worker Sample.promoted)).isControlPlane = true ∧
      (moment Sample.cluster Sample.promotion 7).cluster.machines.objects.get? (key Sample.worker) ≠
        some (Collection.successor Sample.worker Sample.promoted)) ∧
    ∃ edited < 6, ∃ m, Sample.promotion[edited]? = some (.edit (.machine m)) ∧
      key m = key Sample.worker := by
  have unexhausted : Unexhausted Sample.cluster Sample.promotion := by decide
  have stored : (moment Sample.cluster Sample.promotion 6).cluster.machines.objects.get?
      (key Sample.worker) = some (Collection.successor Sample.worker Sample.promoted) := by decide
  have control : ((moment Sample.cluster Sample.promotion 6).cluster.targetOf
      (Collection.successor Sample.worker Sample.promoted)).isControlPlane = true := by decide
  have removed : (moment Sample.cluster Sample.promotion 7).cluster.machines.objects.get?
      (key Sample.worker) ≠ some (Collection.successor Sample.worker Sample.promoted) := by decide
  refine ⟨⟨Sample.reached_cluster, unexhausted, rfl, stored, control, removed⟩, ?_⟩
  obtain ⟨_, _, _, _, _, _, _, edited, lt, found⟩ := edited_of_controlPlane_removed
    Sample.reached_cluster unexhausted (i := 2) rfl stored control removed
  cases found with
  | inl machine => exact ⟨edited, lt, machine.2⟩
  | inr node =>
    obtain ⟨-, n, move, -⟩ := node
    match edited with
    | 0 | 1 | 2 | 3 | 4 | 5 => cases move
    | _ + 6 => omega

/-- Passes do delete machines of the control plane: a worker that is made a master after it has been
resolved is removed for what it was. -/
theorem promoted_worker_removed :
    Sample.cluster.Reached ∧ Sample.cluster.FaultFree ∧
      ([Sample.fresh, Sample.master, Sample.worker].map fun machine =>
        (Sample.cluster.targetOf machine).isUnhealthyAt [] .epoch) = [false, true, true] ∧
      ∃ machine, (moment Sample.cluster Sample.promotion 6).cluster.machines.objects.get?
          (key Sample.worker) = some machine ∧
        machine.metadata.label? Machine.roleLabel = some Machine.masterRole ∧
        Sample.promotion[6]? = some (.remediate 2) ∧
        (moment Sample.cluster Sample.promotion 7).cluster.machines.objects.get?
          (key Sample.worker) = none :=
  ⟨Sample.reached_cluster, Sample.faultFree_cluster, by decide,
    Collection.successor Sample.worker Sample.promoted, by decide, by decide, rfl, by decide⟩

end Scene

end FleetHealth
