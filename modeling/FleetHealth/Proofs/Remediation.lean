import FleetHealth.Remediation.Execution
import FleetHealth.Proofs.Resolution

namespace FleetHealth

open ClusterObject

def Target.nodeToReboot? (t : Target) : Option Node :=
  if t.plan = .reboot then t.node.node?.filter (!·.hasRebootRequest) else none

theorem Target.nodeToReboot?_eq_some_iff {t : Target} {n : Node} :
    t.nodeToReboot? = some n ↔
      t.plan = .reboot ∧ t.node = .present n ∧ n.hasRebootRequest = false := by
  by_cases plan : t.plan = .reboot
  · cases slot : t.node with
    | absent => simp [nodeToReboot?, plan, slot, NodeSlot.node?]
    | missing name => simp [nodeToReboot?, plan, slot, NodeSlot.node?]
    | present n' =>
      simp only [nodeToReboot?, plan, slot, NodeSlot.node?]
      grind
  · simp [nodeToReboot?, plan]

inductive Target.Call (t : Target) : Prop
  | idle : t.plan ≠ .replace → t.nodeToReboot? = none → Call t
  | reboot (n : Node) : t.nodeToReboot? = some n → Call t
  | replace : t.plan = .replace → Call t

theorem Target.call (t : Target) : t.Call := by
  by_cases plan : t.plan = .replace
  · exact .replace plan
  · cases node : t.nodeToReboot? with
    | none => exact .idle plan node
    | some n => exact .reboot n node

namespace Store

variable {m : Type → Type} [Monad m] {t : Target}

theorem execute_of_idle (s : Store m) (notReplace : t.plan ≠ .replace)
    (idle : t.nodeToReboot? = none) : s.execute t t.plan = pure (.ok ()) := by
  cases plan : t.plan with
  | skip reason => rfl
  | replace => exact absurd plan notReplace
  | reboot =>
    rw [execute]
    cases slot : t.node with
    | absent => rfl
    | missing name => rfl
    | present n =>
      have asked : n.hasRebootRequest = true := by
        simpa [Target.nodeToReboot?, plan, slot, NodeSlot.node?] using idle
      simp only [reboot, asked, if_true]

theorem execute_of_node (s : Store m) {n : Node} (h : t.nodeToReboot? = some n) :
    s.execute t t.plan = do
      match ← s.nodes.replace n.requestReboot with
      | .ok _ => return .ok ()
      | .error f => return .error (.ofStep "requesting reboot of node" (shownName n) f) := by
  obtain ⟨plan, slot, unasked⟩ := Target.nodeToReboot?_eq_some_iff.mp h
  rw [plan, execute, slot]
  exact if_neg (ne_true_of_eq_false unasked)

end Store

namespace Cluster

def execute (c : Cluster) (t : Target) : Except Failure Unit × Cluster :=
  (store.execute t t.plan).run c

def remediate (c : Cluster) (t : Target) : Except Failure RemediationAction × Cluster :=
  (store.remediate t).run c

def withMachineDeleted (c : Cluster) (k : Key) : Cluster :=
  { c with machines := { c.machines with
    objects := c.machines.objects.erase k, deletes := c.machines.deletes + 1 } }

def withNodeRebooted (c : Cluster) (stored n : Node) : Cluster :=
  { c with nodes := { c.nodes with
    objects := c.nodes.objects.insert (key n) (Collection.successor stored n.requestReboot)
    writes := c.nodes.writes + 1 } }

inductive Remediated (c : Cluster) (t : Target) : Cluster → Prop
  | idle {c' : Cluster} : t.plan ≠ .replace → t.nodeToReboot? = none → c' = c → Remediated c t c'
  | deleted : t.plan = .replace → c.machines.fault = .none →
      c.machines.objects.contains t.key = true → Remediated c t (c.withMachineDeleted t.key)
  | gone {c' : Cluster} : t.plan = .replace →
      (c.machines.fault = .none → c.machines.objects.contains t.key = false) →
      c'.settled = c.settled → Remediated c t c'
  | rebooted {n stored : Node} : t.nodeToReboot? = some n → c.nodes.fault = .none →
      c.nodes.objects.get? (key n) = some stored →
      Collection.isStale stored n.requestReboot = false →
      Remediated c t (c.withNodeRebooted stored n)

variable {c c' : Cluster} {t : Target} {a : RemediationAction} {f : Failure}

theorem remediate_eq (c : Cluster) (t : Target) :
    c.remediate t = ((c.execute t).1.map fun _ => t.plan, (c.execute t).2) := rfl

theorem execute_idle (c : Cluster) (notReplace : t.plan ≠ .replace)
    (idle : t.nodeToReboot? = none) : c.execute t = (.ok (), c) := by
  rw [execute, Store.execute_of_idle _ notReplace idle]
  rfl

theorem execute_reboot {n : Node} (c : Cluster) (h : t.nodeToReboot? = some n) :
    c.execute t =
      (match (c.nodes.replace n.requestReboot).1 with
        | .ok _ => .ok ()
        | .error f => .error (.ofStep "requesting reboot of node" (shownName n) f),
      { c with nodes := (c.nodes.replace n.requestReboot).2 }) := by
  have written : (store.nodes.replace n.requestReboot).run c =
    ((c.nodes.replace n.requestReboot).1,
      { c with nodes := (c.nodes.replace n.requestReboot).2 }) := rfl
  rw [execute, Store.execute_of_node _ h, run_bind, written]
  rcases c.nodes.replace n.requestReboot with ⟨f | b, nodes⟩
  · rfl
  · rfl

theorem execute_replace (c : Cluster) (plan : t.plan = .replace) :
    c.execute t =
      (match (c.machines.delete t.key).1 with
        | .ok _ => .ok ()
        | .error (.notFound ..) => .ok ()
        | .error f => .error (.ofStep "deleting machine" t.key.text f),
      { c with machines := (c.machines.delete t.key).2 }) := by
  have deleted : (store.machines.delete t.key).run c =
    ((c.machines.delete t.key).1, { c with machines := (c.machines.delete t.key).2 }) := rfl
  rw [execute, plan, Store.execute, Store.removeMachine, run_bind, deleted]
  rcases c.machines.delete t.key with ⟨f | u, machines⟩
  · cases f <;> rfl
  · rfl

theorem remediate_ok_iff :
    c.remediate t = (.ok a, c') ↔ a = t.plan ∧ c.execute t = (.ok (), c') := by
  rw [remediate_eq]
  rcases c.execute t with ⟨f | u, c₁⟩
  · simp [Except.map]
  · simp [Except.map, eq_comm]

theorem remediate_error_iff : c.remediate t = (.error f, c') ↔ c.execute t = (.error f, c') := by
  rw [remediate_eq]
  rcases c.execute t with ⟨f | u, c₁⟩
  · simp [Except.map]
  · simp [Except.map]

theorem remediated_of_execute_ok (h : c.execute t = (.ok (), c')) : c.Remediated t c' := by
  cases t.call with
  | idle notReplace idle =>
    rw [execute_idle c notReplace idle] at h
    cases h
    exact .idle notReplace idle rfl
  | reboot n node =>
    rw [execute_reboot c node] at h
    cases result : (c.nodes.replace n.requestReboot).1 with
    | error f => simp [result] at h
    | ok b =>
      obtain ⟨fault, stored, found, fresh, -, eq⟩ := Collection.replace_ok result
      rw [result, eq] at h
      cases h
      exact .rebooted node fault found fresh
  | replace plan =>
    rw [execute_replace c plan] at h
    cases result : (c.machines.delete t.key).1 with
    | ok u =>
      obtain ⟨fault, found, eq⟩ := Collection.delete_ok result
      rw [result, eq] at h
      cases h
      exact .deleted plan fault found
    | error f =>
      -- a machine that is not found counts as deleted, whatever made it not be found
      have machines := Collection.settled_delete_error result
      refine .gone plan (fun fault => Collection.not_contains_of_delete_error fault result) ?_
      rw [← (Prod.mk.inj h).2]
      simp [settled, machines]

theorem settled_of_execute_error (h : c.execute t = (.error f, c')) : c'.settled = c.settled := by
  cases t.call with
  | idle notReplace idle =>
    rw [execute_idle c notReplace idle] at h
    cases h
  | reboot n node =>
    rw [execute_reboot c node] at h
    cases result : (c.nodes.replace n.requestReboot).1 with
    | ok b => simp [result] at h
    | error f' =>
      have nodes := Collection.settled_replace_error result
      rw [← (Prod.mk.inj h).2]
      simp [settled, nodes]
  | replace plan =>
    rw [execute_replace c plan] at h
    cases result : (c.machines.delete t.key).1 with
    | ok u => simp [result] at h
    | error f' =>
      have machines := Collection.settled_delete_error result
      rw [← (Prod.mk.inj h).2]
      simp [settled, machines]

inductive Executed (c : Cluster) (t : Target) : Cluster → Prop
  | settled {c' : Cluster} : c'.settled = c.settled → Executed c t c'
  | deleted : t.plan = .replace → Executed c t (c.withMachineDeleted t.key)
  | rebooted {n stored : Node} : t.nodeToReboot? = some n →
      c.nodes.objects.get? (key n) = some stored →
      Collection.isStale stored n.requestReboot = false →
      Executed c t (c.withNodeRebooted stored n)

theorem executed_of_execute {r : Except Failure Unit} (h : c.execute t = (r, c')) :
    c.Executed t c' := by
  cases r with
  | error f => exact .settled (settled_of_execute_error h)
  | ok u =>
    cases remediated_of_execute_ok h with
    | idle _ _ eq => exact .settled (congrArg settled eq)
    | deleted plan => exact .deleted plan
    | gone _ _ eq => exact .settled eq
    | rebooted node _ found fresh => exact .rebooted node found fresh

theorem execute_of_remediate {r : Except Failure RemediationAction}
    (h : c.remediate t = (r, c')) : c.execute t = ((c.execute t).1, c') := by
  rw [remediate_eq] at h
  exact Prod.ext rfl (Prod.mk.inj h).2

/-- Without faults, not even the count of refused writes is changed by a failure. -/
theorem FaultFree.execute_error (faultFree : c.FaultFree) (h : c.execute t = (.error f, c')) :
    c' = c := by
  cases t.call with
  | idle notReplace idle =>
    rw [execute_idle c notReplace idle] at h
    cases h
  | reboot n node =>
    rw [execute_reboot c node] at h
    cases result : (c.nodes.replace n.requestReboot).1 with
    | ok b => simp [result] at h
    | error f' =>
      rw [← (Prod.mk.inj h).2, Collection.replace_error faultFree.nodes result]
  | replace plan =>
    rw [execute_replace c plan] at h
    cases result : (c.machines.delete t.key).1 with
    | ok u => simp [result] at h
    | error f' =>
      rw [← (Prod.mk.inj h).2, Collection.delete_error faultFree.machines result]

theorem FaultFree.execute {r : Except Failure Unit} (faultFree : c.FaultFree)
    (h : c.execute t = (r, c')) : c'.FaultFree := by
  cases executed_of_execute h with
  | settled eq =>
    have policies : c'.policies.fault = c.policies.fault := congrArg (·.policies.fault) eq
    have machines : c'.machines.fault = c.machines.fault := congrArg (·.machines.fault) eq
    have machineSets : c'.machineSets.fault = c.machineSets.fault :=
      congrArg (·.machineSets.fault) eq
    have nodes : c'.nodes.fault = c.nodes.fault := congrArg (·.nodes.fault) eq
    exact ⟨policies.trans faultFree.policies, machines.trans faultFree.machines,
      machineSets.trans faultFree.machineSets, nodes.trans faultFree.nodes⟩
  | deleted _ =>
    exact ⟨faultFree.policies, faultFree.machines, faultFree.machineSets, faultFree.nodes⟩
  | rebooted _ _ _ =>
    exact ⟨faultFree.policies, faultFree.machines, faultFree.machineSets, faultFree.nodes⟩

theorem Sound.execute {r : Except Failure Unit} (sound : c.Sound) (h : c.execute t = (r, c')) :
    c'.Sound := by
  cases executed_of_execute h with
  | settled eq => exact sound.of_settled_eq eq
  | deleted _ => exact ⟨sound.machines.erase t.key _, sound.nodes⟩
  | @rebooted n stored _ _ _ =>
    exact ⟨sound.machines, sound.nodes.insert stored n.requestReboot _⟩

/-! What it comes to without faults depends on what is stored. -/

theorem FaultFree.execute_gone (faultFree : c.FaultFree) (plan : t.plan = .replace)
    (gone : c.machines.objects.contains t.key = false) : c.execute t = (.ok (), c) := by
  rw [execute_replace c plan, Collection.delete_of_missing faultFree.machines gone]
  rfl

theorem FaultFree.execute_stale {n stored : Node} (faultFree : c.FaultFree)
    (node : t.nodeToReboot? = some n) (found : c.nodes.objects.get? (key n) = some stored)
    (stale : Collection.isStale stored n.requestReboot = true) :
    c.execute t = (.error (.conflict Node.kind.kind (shownName n)), c) := by
  have refused := Collection.replace_of_stale (a := n.requestReboot) faultFree.nodes found stale
  rw [execute_reboot c node, refused, Collection.replace_error faultFree.nodes refused]
  rfl

theorem FaultFree.execute_fresh {n stored : Node} (faultFree : c.FaultFree)
    (node : t.nodeToReboot? = some n) (found : c.nodes.objects.get? (key n) = some stored)
    (fresh : Collection.isStale stored n.requestReboot = false) :
    c.execute t = (.ok (), c.withNodeRebooted stored n) := by
  have written := Collection.replace_of_fresh (a := n.requestReboot) faultFree.nodes found fresh
  obtain ⟨-, stored', found', -, -, eq⟩ := Collection.replace_ok written
  rw [execute_reboot c node, written, eq]
  cases found.symm.trans found'
  rfl

end Cluster

end FleetHealth
