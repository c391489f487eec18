import FleetHealth.Proofs.DryRun
import FleetHealth.Proofs.Routing

namespace FleetHealth

open ClusterObject

theorem Collection.replace_congr {α : Type} [ClusterObject α] {c c' : Collection α} {a : α}
    (fault : c.fault = .none) (fault' : c'.fault = .none)
    (same : c'.objects.get? (key a) = c.objects.get? (key a)) :
    (c'.replace a).1 = (c.replace a).1 ∧
      ∀ k, c'.objects.get? k = c.objects.get? k →
        (c'.replace a).2.objects.get? k = (c.replace a).2.objects.get? k := by
  rw [replace, replace, write_of_fault_none fault, write_of_fault_none fault', replaced, replaced,
    same]
  cases c.objects.get? (key a) with
  | none => exact ⟨rfl, fun _ same => same⟩
  | some stored =>
    dsimp only
    split
    · exact ⟨rfl, fun _ same => same⟩
    · refine ⟨rfl, fun k same => ?_⟩
      simp only [Table.get?_insert, same]

theorem Node.routes_of_machineKey? {n : Node} {km : Key} {machine : Machine}
    {lookup : Key → Option Machine} (annotated : n.machineKey? = .ok (some km))
    (known : lookup km = some machine) (policies : List Policy) :
    n.routes lookup policies = machine.routes policies := by
  rw [routes, lookupKey?, annotated, Option.bind_some, known]

namespace Cluster

structure AgreeOffNode (name : String) (c c' : Cluster) : Prop where
  policies : c'.policies = c.policies
  machines : c'.machines = c.machines
  machineSets : c'.machineSets = c.machineSets
  nodes : ∀ k, k ≠ .clusterWide name → c'.nodes.objects.get? k = c.nodes.objects.get? k

namespace Sample

def workerNode (labels : Option Labels) : Node where
  metadata := { (metadata none "n1").annotate Node.machineAnnotation "fleet/worker" with labels }
  spec := none
  status := none

def twoPolicies : Cluster :=
  .ofLists [policy, masters] [master, worker] [] [node "n0", workerNode none]

def labelledNode : Node :=
  Collection.successor (workerNode none)
    (workerNode (some (Table.ofList [(Node.controlPlaneLabel, "")])))

def afterLabelling : Cluster := { twoPolicies with nodes := (twoPolicies.nodes.replace
  (workerNode (some (Table.ofList [(Node.controlPlaneLabel, "")])))).2 }

end Sample

variable {c c' : Cluster} {name : String} {policy : Policy} {machine : Machine} {k : Key}
  {now : Instant} {n : Node} {t : Target} {ts : List Target}

theorem exists_nodeName_of_slotOf (sound : c.Sound) (h : c.slotOf machine = .present n) :
    ∃ name, machine.nodeName? = some name ∧ key n = .clusterWide name := by
  have node := c.node?_slotOf machine
  rw [h] at node
  obtain ⟨name, named, found⟩ := Option.bind_eq_some_iff.mp node.symm
  exact ⟨name, named, sound.nodes.keyed found⟩

namespace AgreeOffNode

theorem targetOf (h : AgreeOffNode name c c') (elsewhere : machine.nodeName? ≠ some name) :
    c'.targetOf machine = c.targetOf machine := by
  rw [Cluster.targetOf, Cluster.targetOf, slotOf, slotOf]
  cases named : machine.nodeName? with
  | none => rfl
  | some other =>
    have ne : Key.clusterWide other ≠ .clusterWide name := by
      intro same
      cases same
      exact elsewhere named
    dsimp only
    rw [h.nodes _ ne]

theorem targetsOf (h : AgreeOffNode name c c') (faultFree : c.FaultFree)
    (faultFree' : c'.FaultFree) (sound : c.Sound)
    (elsewhere : ∀ machine, c.Selects policy machine → machine.nodeName? ≠ some name) :
    c'.targetsOf policy = c.targetsOf policy := by
  cases checked : policy.spec.machineSelector with
  | error f =>
    rw [Cluster.targetsOf, Cluster.targetsOf, checked]
    rfl
  | ok selector =>
    have resolved := faultFree.targetsOf checked
    rw [faultFree'.targetsOf checked, resolved, h.machines]
    apply congrArg
    apply List.map_congr_left
    intro machine mem
    exact h.targetOf
      (elsewhere machine (mem_targetsOf sound resolved (List.mem_map_of_mem mem)).2)

theorem survey (h : AgreeOffNode name c c') (faultFree : c.FaultFree)
    (stored : c.policies.objects.get? k = some policy)
    (targets : c'.targetsOf policy = c.targetsOf policy) :
    c'.survey k now = c.survey k now := by
  rw [Cluster.survey, Cluster.survey, h.policies, faultFree.readPolicy stored]
  dsimp only [bind, Except.bind]
  rw [surveyOf, surveyOf, targets]

theorem execute (h : AgreeOffNode name c c') (faultFree : c.FaultFree) (faultFree' : c'.FaultFree)
    (elsewhere : ∀ n, t.nodeToReboot? = some n → key n ≠ .clusterWide name) :
    (c'.execute t).1 = (c.execute t).1 ∧
      AgreeOffNode name (c.execute t).2 (c'.execute t).2 := by
  cases t.call with
  | idle notReplace idle =>
    rw [execute_idle c notReplace idle, execute_idle c' notReplace idle]
    exact ⟨rfl, h⟩
  | reboot n node =>
    obtain ⟨result, objects⟩ := Collection.replace_congr (a := n.requestReboot) faultFree.nodes
      faultFree'.nodes (h.nodes _ (elsewhere n node))
    rw [execute_reboot c node, execute_reboot c' node, result]
    exact ⟨rfl, h.policies, h.machines, h.machineSets, fun k ne => objects k (h.nodes k ne)⟩
  | replace plan =>
    rw [execute_replace c plan, execute_replace c' plan, h.machines]
    exact ⟨rfl, h.policies, rfl, h.machineSets, h.nodes⟩

theorem remediateAll (h : AgreeOffNode name c c') (faultFree : c.FaultFree)
    (faultFree' : c'.FaultFree)
    (elsewhere : ∀ t ∈ ts, ∀ n, t.nodeToReboot? = some n → key n ≠ .clusterWide name) :
    (c'.remediateAll ts).1 = (c.remediateAll ts).1 ∧
      AgreeOffNode name (c.remediateAll ts).2 (c'.remediateAll ts).2 := by
  induction ts generalizing c c' with
  | nil => exact ⟨rfl, h⟩
  | cons t ts ih =>
    obtain ⟨same, after⟩ := h.execute faultFree faultFree' (elsewhere t List.mem_cons_self)
    rcases result : c.execute t with ⟨f | u, c₁⟩
    · rcases result' : c'.execute t with ⟨r, c₁'⟩
      rw [result, result'] at same after
      subst same
      rw [remediateAll_cons_of_error result, remediateAll_cons_of_error result']
      exact ⟨rfl, after⟩
    · rcases result' : c'.execute t with ⟨r, c₁'⟩
      rw [result, result'] at same after
      subst same
      rw [remediateAll_cons_of_ok result, remediateAll_cons_of_ok result']
      obtain ⟨rest, after⟩ := ih after (faultFree.execute result) (faultFree'.execute result')
        fun t' mem => elsewhere t' (List.mem_cons_of_mem t mem)
      exact ⟨by rw [rest], after⟩

theorem pass (h : AgreeOffNode name c c') (faultFree : c.FaultFree) (faultFree' : c'.FaultFree)
    (sound : c.Sound) (stored : c.policies.objects.get? k = some policy)
    (elsewhere : ∀ machine, c.Selects policy machine → machine.nodeName? ≠ some name) :
    (c'.pass k now).1 = (c.pass k now).1 ∧
      AgreeOffNode name (c.pass k now).2 (c'.pass k now).2 := by
  have targets := h.targetsOf faultFree faultFree' sound elsewhere
  rw [pass_eq, pass_eq, h.survey faultFree stored targets]
  rcases surveyed : c.survey k now with f | _ | survey
  · exact ⟨rfl, h⟩
  · exact ⟨rfl, h⟩
  · obtain ⟨policy', found, -, surveyed⟩ := survey_ok surveyed
    rw [stored] at found
    cases found
    have others : ∀ t ∈ unhealthyTargets survey, ∀ n, t.nodeToReboot? = some n →
        key n ≠ .clusterWide name := by
      intro t mem n node
      obtain ⟨resolved, selected⟩ := selects_of_mem_unhealthyTargets sound surveyed mem
      obtain ⟨-, slot, -⟩ := Target.nodeToReboot?_eq_some_iff.mp node
      rw [resolved] at slot
      obtain ⟨other, named, own⟩ := exists_nodeName_of_slotOf sound slot
      rw [own]
      rintro ⟨⟩
      exact elsewhere t.machine selected named
    obtain ⟨same, after⟩ := h.remediateAll faultFree faultFree' others
    exact ⟨by rw [act, act, same], after⟩

end AgreeOffNode

theorem nodeName_ne_of_unrouted (reached : c.Reached)
    (stored : c.policies.objects.get? k = some policy) (namespaced : policy.metadata.ns ≠ none)
    (annotated : ∀ km machine, c.machines.objects.get? km = some machine →
      machine.nodeName? = some name → n.machineKey? = .ok (some km))
    (unrouted : key policy ∉ n.routes c.machines.objects.get? c.policies.objects.values)
    (selected : c.Selects policy machine) : machine.nodeName? ≠ some name := by
  -- the node names the machine, and the machine is concerned, so the policy would be routed to
  intro named
  apply unrouted
  rw [Node.routes_of_machineKey? (annotated _ machine selected.stored named) selected.stored,
    mem_routes_stored reached.policies.sound stored, concerns_iff_selects selected.stored]
  exact ⟨selected, fun unnamed => absurd unnamed namespaced⟩

/-- A change of a node, of which clients are told by the node as it is after the change, makes no
difference to a policy that it is not routed to: neither to its targets, nor to its dry run, nor to
its pass and to what that writes. -/
theorem unrouted_policy_unaffected (reached : c.Reached) (faultFree : c.FaultFree)
    (faultFree' : c'.FaultFree) (changed : AgreeOffNode name c c')
    (annotated : ∀ km machine, c.machines.objects.get? km = some machine →
      machine.nodeName? = some name → n.machineKey? = .ok (some km))
    (stored : c.policies.objects.get? k = some policy) (namespaced : policy.metadata.ns ≠ none)
    (unrouted : key policy ∉ n.routes c.machines.objects.get? c.policies.objects.values)
    (now : Instant) :
    ((store.resolve policy).run c').1 = ((store.resolve policy).run c).1 ∧
      ((store.dryRun policy now).run c').1 = ((store.dryRun policy now).run c).1 ∧
      (c'.pass k now).1 = (c.pass k now).1 ∧
      AgreeOffNode name (c.pass k now).2 (c'.pass k now).2 := by
  have elsewhere : ∀ machine, c.Selects policy machine → machine.nodeName? ≠ some name :=
    fun _ => nodeName_ne_of_unrouted reached stored namespaced annotated unrouted
  have targets := changed.targetsOf faultFree faultFree' reached.sound elsewhere
  refine ⟨?_, ?_, changed.pass faultFree faultFree' reached.sound stored elsewhere⟩
  · rw [run_resolve, run_resolve, targets]
  · rw [run_dryRun, run_dryRun, surveyOf, surveyOf, targets]

/-- The label on the node of the worker makes a difference to the policy that selects the worker,
and that policy is the one that it is routed to; to the policy of the masters it makes none. -/
theorem sample_unrouted_policy_unaffected :
    (Sample.twoPolicies.Reached ∧ Sample.twoPolicies.FaultFree ∧
      Sample.afterLabelling.FaultFree ∧
      AgreeOffNode "n1" Sample.twoPolicies Sample.afterLabelling ∧
      Sample.afterLabelling.nodes.objects.get? (.clusterWide "n1") = some Sample.labelledNode ∧
      Sample.labelledNode.routes Sample.twoPolicies.machines.objects.get?
        Sample.twoPolicies.policies.objects.values = [key Sample.policy]) ∧
    (Sample.afterLabelling.pass (key Sample.policy) .epoch).1 ≠
        (Sample.twoPolicies.pass (key Sample.policy) .epoch).1 ∧
      (Sample.afterLabelling.pass (key Sample.masters) .epoch).1 =
        (Sample.twoPolicies.pass (key Sample.masters) .epoch).1 := by
  have reached : Sample.twoPolicies.Reached := reached_ofLists ..
  have faultFree : Sample.twoPolicies.FaultFree := faultFree_ofLists ..
  have faultFree' : Sample.afterLabelling.FaultFree := ⟨rfl, rfl, rfl, by decide⟩
  have changed : AgreeOffNode "n1" Sample.twoPolicies Sample.afterLabelling :=
    ⟨rfl, rfl, rfl, fun k ne => Collection.get?_replace_of_ne ne⟩
  have annotated : ∀ km machine,
      Sample.twoPolicies.machines.objects.get? km = some machine →
      machine.nodeName? = some "n1" → Sample.labelledNode.machineKey? = .ok (some km) := by
    have all : ∀ e ∈ Sample.twoPolicies.machines.objects.toList,
        e.2.nodeName? = some "n1" → Sample.labelledNode.machineKey? = .ok (some e.1) := by decide
    exact fun km machine stored => all (km, machine) (Table.get?_eq_some_iff.mp stored)
  have stored : Sample.twoPolicies.policies.objects.get? (key Sample.masters) =
      some Sample.masters := by decide
  have unaffected := unrouted_policy_unaffected reached faultFree faultFree' changed annotated
    stored (by decide) (by decide) .epoch
  exact ⟨⟨reached, faultFree, faultFree', changed, by decide, by decide⟩, by decide,
    unaffected.2.2.1⟩

end Cluster

end FleetHealth
