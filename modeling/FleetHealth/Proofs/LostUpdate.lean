import FleetHealth.Proofs.Effect
import FleetHealth.Proofs.Interleaving
/-!
No update of a node is lost. However passes and other clients come between each other, remediation
writes a node only while it is the one that the target was resolved with, because a version that has
been stored is never stored again. So nodes are asked to reboot once, unless others take the request
back.
-/

namespace FleetHealth

open ClusterObject

namespace Cluster

/-- What remediation of a target can do to the nodes: to ask the node of the target to reboot, while
it is still as it was when the target was resolved, or else nothing. -/
inductive NodeOutcome (c : Cluster) (t : Target) :
    Except Failure RemediationAction → Cluster → Prop
  | rebooted {n : Node} : t.node = .present n → n.hasRebootRequest = false →
      c.nodes.objects.get? (key n) = some n →
      NodeOutcome c t (.ok .reboot) (c.withNodeRebooted n n)
  | untouched {r : Except Failure RemediationAction} {c' : Cluster} :
      c'.nodes.objects = c.nodes.objects → c'.nodes.writes = c.nodes.writes →
      (t.nodeToReboot?.isSome = true → ∃ f, r = .error f) → NodeOutcome c t r c'

structure KeepsRequests (c c' : Cluster) : Prop where
  kept : ∀ {k n n'}, c.nodes.objects.get? k = some n → c'.nodes.objects.get? k = some n' →
    n.hasRebootRequest = true → n'.hasRebootRequest = true

instance (c c' : Cluster) : Decidable (KeepsRequests c c') :=
  decidable_of_iff (∀ e ∈ c.nodes.objects.toList, e.2.hasRebootRequest = true →
      (c'.nodes.objects.get? e.1).all Node.hasRebootRequest = true)
    ⟨fun h => ⟨fun before after asked => by
        simpa [after] using h _ (Table.get?_eq_some_iff.mp before) asked⟩,
      fun h _ mem asked => (Option.all_eq_true _ _).mpr fun _ after =>
        h.kept (Table.get?_eq_some_iff.mpr mem) after asked⟩

def Asked (c : Cluster) (k : Key) : Prop :=
  ∀ n, c.nodes.objects.get? k = some n → n.hasRebootRequest = true

def NodeOutcomes (c : Cluster) (t : Target) : Prop :=
  ∀ {r c'}, c.remediate t = (r, c') → NodeOutcome c t r c'

theorem nodeOutcome_of_remediate {c c' : Cluster} {t : Target}
    {r : Except Failure RemediationAction}
    (current : ∀ n stored, t.node = .present n → c.nodes.objects.get? (key n) = some stored →
      Collection.isStale stored n.requestReboot = false → stored = n)
    (h : c.remediate t = (r, c')) : NodeOutcome c t r c' := by
  cases r with
  | error f =>
    have settled := settled_of_execute_error (remediate_error_iff.mp h)
    exact .untouched (congrArg (·.nodes.objects) settled :) (congrArg (·.nodes.writes) settled :)
      fun _ => ⟨f, rfl⟩
  | ok a =>
    obtain ⟨rfl, result⟩ := remediate_ok_iff.mp h
    cases remediated_of_execute_ok result with
    | idle _ idle eq =>
      subst eq
      exact .untouched rfl rfl (by simp [idle])
    | deleted plan _ _ =>
      exact .untouched rfl rfl (by simp [Target.nodeToReboot?_of_replace plan])
    | gone plan _ settled =>
      exact .untouched (congrArg (·.nodes.objects) settled :) (congrArg (·.nodes.writes) settled :)
        (by simp [Target.nodeToReboot?_of_replace plan])
    | @rebooted n stored node _ found fresh =>
      obtain ⟨plan, slot, unasked⟩ := Target.nodeToReboot?_eq_some_iff.mp node
      have same := current n stored slot found fresh
      subst same
      rw [plan]
      exact .rebooted slot unasked found

namespace Sample

def labelled : Node :=
  { node "n0" with metadata :=
      { metadata none "n0" with labels := some (Table.ofList [("zone", "a")]) } }

/-- A node that is written whatever the version of the stored one is. -/
def forced : Node :=
  { (node "n0").requestReboot with metadata :=
      { (node "n0").requestReboot.metadata with resourceVersion := none } }

/-- Two passes that look up the node of the master before another client labels it, and one of them
once more after. -/
def twoPasses : List Move := [
  .list policy, .look 1, .look 1, .edit (.node labelled), .remediate 0, .look 1, .remediate 2,
  .edit (.node forced), .remediate 1]

end Sample

end Cluster

namespace Scene

open Cluster

variable {c : Cluster} {moves : List Move} {s : Scene} {t : Target} {time : Nat}

theorem advances_step (unexhausted : s.cluster.nodes.Unexhausted) (move : Move) :
    Collection.Advances s.cluster.nodes (s.step move).cluster.nodes := by
  cases move with
  | list policy => exact .refl _
  | look i => exact .refl _
  | edit e =>
    cases e with
    | machine machine => exact .refl _
    | node n => exact unexhausted.advances_replace n
  | remediate i =>
    rcases s.remediated_of_step i with eq | ⟨t, -, r, c', result, eq⟩
    · rw [eq]
      exact .refl _
    · rw [eq]
      cases executed_of_execute (execute_of_remediate result) with
      | settled eq => exact .of_settled_eq (congrArg Cluster.nodes eq :)
      | deleted _ => exact .refl _
      | @rebooted n stored _ found _ =>
        exact unexhausted.advances_insert (a := n.requestReboot) found _

def Unexhausted (c : Cluster) (moves : List Move) : Prop :=
  ∀ time < moves.length, (moment c moves time).cluster.nodes.Unexhausted

instance (c : Cluster) (moves : List Move) : Decidable (Unexhausted c moves) :=
  inferInstanceAs (Decidable (∀ time < moves.length, _))

theorem Unexhausted.nodes (h : Unexhausted c moves) {move : Move}
    (made : moves[time]? = some move) : (moment c moves time).cluster.nodes.Unexhausted :=
  h time (List.getElem?_eq_some_iff.mp made).1

theorem advances_moment (unexhausted : Unexhausted c moves) {earlier : Nat} (le : earlier ≤ time) :
    Collection.Advances (moment c moves earlier).cluster.nodes
      (moment c moves time).cluster.nodes :=
  moment_induction
    (P := fun _ s => Collection.Advances (moment c moves earlier).cluster.nodes s.cluster.nodes)
    le (.refl _) (fun kept => kept)
    fun move _ _ made kept => kept.trans (advances_step (unexhausted.nodes made) move)

theorem nodeOutcome_of_mem_targets (sound : c.Sound) (unexhausted : Unexhausted c moves)
    (mem : t ∈ (moment c moves time).targets) :
    (moment c moves time).cluster.NodeOutcomes t := by
  intro r c'
  apply nodeOutcome_of_remediate
  intro n stored slot found fresh
  obtain ⟨lookup, earlier, -, -, -, seen⟩ := resolved_of_mem_targets sound mem
  have soundThen := sound_moment sound moves lookup
  have read : (moment c moves lookup).cluster.nodes.objects.get? (key n) = some n := by
    rw [seen] at slot
    exact get?_of_slotOf soundThen slot
  -- the target has the node of its lookup, and none that was written since has that version
  exact (advances_moment unexhausted earlier).eq_of_fresh soundThen.nodes read found rfl fresh

theorem rebooted_of_remediate {i : Nat} {k : Key}
    (outcome : ∀ t ∈ s.targets, s.cluster.NodeOutcomes t)
    (changed : (s.step (.remediate i)).cluster.nodes.objects.get? k ≠
      s.cluster.nodes.objects.get? k) :
    ∃ n, n.hasRebootRequest = false ∧ s.cluster.nodes.objects.get? k = some n ∧
      (s.step (.remediate i)).cluster.nodes.objects.get? k = some n.rebooted := by
  rcases s.remediated_of_step i with eq | ⟨t, mem, r, c', result, eq⟩
  · rw [eq] at changed
    exact absurd rfl changed
  · rw [eq] at changed ⊢
    cases outcome t mem result with
    | untouched objects _ _ =>
      rw [objects] at changed
      exact absurd rfl changed
    | @rebooted n _ unasked found =>
      -- no other entry than that of the target's node has changed
      have own : k = key n := by
        by_contra other
        exact changed (Table.get?_insert_of_ne _ _ other)
      subst own
      exact ⟨n, unasked, found, Table.get?_insert_self ..⟩

theorem asked_step {move : Move} {k : Key} (unexhausted : s.cluster.nodes.Unexhausted)
    (outcome : ∀ t ∈ s.targets, s.cluster.NodeOutcomes t)
    (kept : ∀ e, move = .edit e → KeepsRequests s.cluster (s.step move).cluster)
    (asked : s.cluster.Asked k) : (s.step move).cluster.Asked k := by
  cases move with
  | list policy => exact asked
  | look i => exact asked
  | edit e =>
    intro n' after
    obtain ⟨n, before, -⟩ := (advances_step unexhausted (.edit e)).before after
    exact (kept e rfl).kept before after (asked n before)
  | remediate i =>
    intro n after
    by_cases changed : (s.step (.remediate i)).cluster.nodes.objects.get? k =
      s.cluster.nodes.objects.get? k
    · exact asked n (changed ▸ after)
    · obtain ⟨m, -, -, rebooted⟩ := rebooted_of_remediate outcome changed
      rw [rebooted] at after
      cases after
      exact m.hasRebootRequest_rebooted

def RequestsKept (c : Cluster) (moves : List Move) : Prop :=
  ∀ time e, moves[time]? = some (.edit e) →
    KeepsRequests (moment c moves time).cluster (moment c moves (time + 1)).cluster

def WritesNode (c : Cluster) (moves : List Move) (time : Nat) (k : Key) : Prop :=
  (∃ i, moves[time]? = some (.remediate i)) ∧
    (moment c moves (time + 1)).cluster.nodes.objects.get? k ≠
      (moment c moves time).cluster.nodes.objects.get? k

theorem WritesNode.rebooted {k : Key} (h : WritesNode c moves time k) (sound : c.Sound)
    (unexhausted : Unexhausted c moves) :
    (∃ n, n.hasRebootRequest = false ∧
      (moment c moves time).cluster.nodes.objects.get? k = some n) ∧
      (moment c moves (time + 1)).cluster.Asked k := by
  obtain ⟨⟨i, move⟩, changed⟩ := h
  rw [moment_succ move] at changed ⊢
  obtain ⟨n, unasked, before, after⟩ :=
    rebooted_of_remediate (fun _ mem => nodeOutcome_of_mem_targets sound unexhausted mem) changed
  refine ⟨⟨n, unasked, before⟩, ?_⟩
  intro n' found
  rw [after] at found
  cases found
  exact n.hasRebootRequest_rebooted

theorem asked_moment {k : Key} {later : Nat} (sound : c.Sound) (unexhausted : Unexhausted c moves)
    (kept : RequestsKept c moves) (asked : (moment c moves time).cluster.Asked k)
    (le : time ≤ later) : (moment c moves later).cluster.Asked k := by
  refine moment_induction (P := fun _ s => s.cluster.Asked k) le asked (fun asked => asked) ?_
  intro now move _ _ made asked
  refine asked_step (unexhausted.nodes made)
    (fun _ mem => nodeOutcome_of_mem_targets sound unexhausted mem) ?_ asked
  rintro e rfl
  rw [← moment_succ made]
  exact kept now e made

theorem not_writesNode_of_lt {k : Key} {later : Nat} (sound : c.Sound)
    (unexhausted : Unexhausted c moves) (kept : RequestsKept c moves)
    (first : WritesNode c moves time k) (lt : time < later) : ¬WritesNode c moves later k := by
  intro second
  -- the first write asks the node, which is then asked for good, and a write finds it unasked
  have asked := asked_moment sound unexhausted kept (first.rebooted sound unexhausted).2 lt
  obtain ⟨⟨n, unasked, stored⟩, -⟩ := second.rebooted sound unexhausted
  rw [asked n stored] at unasked
  cases unasked

/-- Remediation writes a node only while it is the one that its target was resolved with, or else
leaves the nodes as they are, and fails if it had one to write; and it writes no node twice, unless
others take a request back. -/
theorem remediation_loses_no_update (reached : c.Reached) (unexhausted : Unexhausted c moves) :
    (∀ time i t, moves[time]? = some (.remediate i) →
      (moment c moves time).targets[i]? = some t →
      NodeOutcome (moment c moves time).cluster t ((moment c moves time).cluster.remediate t).1
        (moment c moves (time + 1)).cluster) ∧
    (RequestsKept c moves → ∀ k time later, WritesNode c moves time k →
      WritesNode c moves later k → time = later) := by
  refine ⟨?_, ?_⟩
  · intro time i t move target
    rw [moment_succ move, step_remediate target]
    exact nodeOutcome_of_mem_targets reached.sound unexhausted (List.mem_of_getElem? target) rfl
  · intro kept k time later first second
    rcases Nat.lt_trichotomy time later with lt | eq | gt
    · exact absurd second (not_writesNode_of_lt reached.sound unexhausted kept first lt)
    · exact eq
    · exact absurd first (not_writesNode_of_lt reached.sound unexhausted kept second gt)

/-- The request of the first pass is refused, because of the label; the one of the second pass,
which has looked at the node again, is made and is the only one. -/
theorem sample_remediation_loses_no_update :
    (Sample.cluster.Reached ∧ Unexhausted Sample.cluster Sample.twoPasses ∧
      RequestsKept Sample.cluster Sample.twoPasses) ∧
    NodeOutcome (moment Sample.cluster Sample.twoPasses 4).cluster
      (Sample.cluster.targetOf Sample.master) (.error (.conflict "Node" "n0"))
      (moment Sample.cluster Sample.twoPasses 5).cluster ∧
    NodeOutcome (moment Sample.cluster Sample.twoPasses 6).cluster
      ((moment Sample.cluster Sample.twoPasses 5).cluster.targetOf Sample.master) (.ok .reboot)
      (moment Sample.cluster Sample.twoPasses 7).cluster ∧
    ∀ time, WritesNode Sample.cluster Sample.twoPasses time (key (Sample.node "n0")) →
      time = 6 := by
  have unexhausted : Unexhausted Sample.cluster Sample.twoPasses := by decide
  have kept : RequestsKept Sample.cluster Sample.twoPasses := by
    intro time e edit
    match time with
    | 3 => decide
    | 7 => decide
    | 0 | 1 | 2 | 4 | 5 | 6 | 8 | _ + 9 => cases edit
  obtain ⟨outcome, once⟩ := remediation_loses_no_update Sample.reached_cluster unexhausted
  have refused : ((moment Sample.cluster Sample.twoPasses 4).cluster.remediate
      (Sample.cluster.targetOf Sample.master)).1 = .error (.conflict "Node" "n0") := by decide
  have made : ((moment Sample.cluster Sample.twoPasses 6).cluster.remediate
      ((moment Sample.cluster Sample.twoPasses 5).cluster.targetOf Sample.master)).1 =
        .ok .reboot := by decide
  refine ⟨⟨Sample.reached_cluster, unexhausted, kept⟩, ?_, ?_, ?_⟩
  · rw [← refused]
    exact outcome 4 0 _ rfl (by decide)
  · rw [← made]
    exact outcome 6 2 _ rfl (by decide)
  · intro time written
    exact once kept _ time 6 written ⟨⟨2, rfl⟩, by decide⟩

end Scene

end FleetHealth
