import FleetHealth.Proofs.Repetition
import Mathlib.Data.List.Perm.Subperm
/-!
Passes that are tried again. On a cluster where nothing is wrong, a pass of a sound policy fails
only after it has asked a node to reboot that had not been asked before, and what has been asked
stays asked. So there are at most as many failures as nodes, and after the first success nothing
changes any more.
-/

namespace FleetHealth.Cluster

open ClusterObject

def afterPasses (c : Cluster) (k : Key) (now : Instant) (count : Nat) : Cluster :=
  c.run (List.replicate count (.pass k now))

def AsksNode (c c' : Cluster) : Prop :=
  ∃ k n n', c.nodes.objects.get? k = some n ∧ n.hasRebootRequest = false ∧
    c'.nodes.objects.get? k = some n' ∧ n'.hasRebootRequest = true

def unaskedNodes (c : Cluster) : List Key :=
  (c.nodes.objects.filter fun _ n => !n.hasRebootRequest).keys

/-- Passes that are tried again fail so many times, though never without having asked a node to
reboot, and then always succeed; after the first success they change nothing. -/
structure SettlesAfter (c : Cluster) (k : Key) (now : Instant) (failures : Nat) : Prop where
  failing : ∀ i < failures,
    (∃ f, ((c.afterPasses k now i).pass k now).1.outcome = .error f) ∧
      AsksNode (c.afterPasses k now i) (c.afterPasses k now (i + 1))
  succeeding : ∀ i ≥ failures, ∃ o, ((c.afterPasses k now i).pass k now).1.outcome = .ok o
  settled : ∀ i > failures, c.afterPasses k now (i + 1) = c.afterPasses k now i

variable {c c' : Cluster} {k : Key} {policy : Policy} {now : Instant}

@[simp] theorem afterPasses_zero : c.afterPasses k now 0 = c := rfl

theorem afterPasses_succ (count : Nat) :
    c.afterPasses k now (count + 1) = (c.pass k now).2.afterPasses k now count := rfl

theorem mem_unaskedNodes {kn : Key} :
    kn ∈ c.unaskedNodes ↔
      ∃ n, c.nodes.objects.get? kn = some n ∧ n.hasRebootRequest = false := by
  rw [unaskedNodes, Table.mem_keys_iff, Table.contains, Option.isSome_iff_exists, Table.get?_filter]
  simp

theorem length_unaskedNodes_le (c : Cluster) :
    c.unaskedNodes.length ≤ c.nodes.objects.size := by
  rw [unaskedNodes, Table.keys, List.length_map]
  exact List.length_filter_le _ _

theorem Frame.mem_unaskedNodes (h : Frame c c') {kn : Key} (unasked : kn ∈ c'.unaskedNodes) :
    kn ∈ c.unaskedNodes := by
  obtain ⟨n', after, unasked⟩ := Cluster.mem_unaskedNodes.mp unasked
  have kept := h.nodes kn
  rw [after] at kept
  cases before : c.nodes.objects.get? kn with
  | none =>
    rw [before] at kept
    cases kept
  | some n =>
    rw [before] at kept
    obtain ⟨kept⟩ := kept
    refine Cluster.mem_unaskedNodes.mpr ⟨n, before, ?_⟩
    cases kept with
    | same => exact unasked
    | rebooted unasked' => exact unasked'

/-- Requests stay, so a request that is new leaves fewer nodes to ask. -/
theorem Frame.length_unaskedNodes_lt (h : Frame c c') (asks : AsksNode c c') :
    c'.unaskedNodes.length < c.unaskedNodes.length := by
  obtain ⟨kn, n, n', before, unasked, after, asked⟩ := asks
  have new : kn ∉ c'.unaskedNodes := by
    intro mem
    obtain ⟨n'', found, unasked'⟩ := Cluster.mem_unaskedNodes.mp mem
    rw [after] at found
    cases found
    rw [asked] at unasked'
    cases unasked'
  have nodup : (kn :: c'.unaskedNodes).Nodup := List.nodup_cons.mpr ⟨new, Table.nodup_keys _⟩
  have subset : kn :: c'.unaskedNodes ⊆ c.unaskedNodes := by
    intro kn' mem
    cases mem with
    | head => exact Cluster.mem_unaskedNodes.mpr ⟨n, before, unasked⟩
    | tail _ mem => exact h.mem_unaskedNodes mem
  exact (List.subperm_of_subset nodup subset).length_le

theorem FaultFree.asksNode_of_failed {f : Failure} (faultFree : c.FaultFree) (sound : c.Sound)
    (stored : c.policies.objects.get? k = some policy) (valid : policy.spec.validate = .ok ())
    (failed : (c.pass k now).1.outcome = .error f) : AsksNode c (c.pass k now).2 := by
  obtain ⟨survey, surveyed⟩ := faultFree.exists_surveyOf valid now
  obtain ⟨before, t, after, unhealthy, first, effect, failed, -⟩ :=
    faultFree.stopped_of_outcome sound stored valid surveyed failed
  obtain ⟨n, asked, -, -⟩ := faultFree.asked_of_failed sound surveyed unhealthy first failed
  refine ⟨key n, n, n.rebooted, effect.stored n asked, effect.unasked n asked, ?_,
    n.hasRebootRequest_rebooted⟩
  rw [effect.nodes, effect.stored n asked, Option.map_some, Node.afterReboots_of_mem asked]

theorem FaultFree.pass_again {o : PassOutcome} (faultFree : c.FaultFree) (sound : c.Sound)
    (stored : c.policies.objects.get? k = some policy) (valid : policy.spec.validate = .ok ())
    (ok : (c.pass k now).1.outcome = .ok o) :
    (∃ o', ((c.pass k now).2.pass k now).1.outcome = .ok o') ∧
      ((c.pass k now).2.pass k now).2 = (c.pass k now).2 := by
  obtain ⟨survey, succeeded⟩ := succeeded_of_outcome stored ok
  rw [succeeded.pass_again sound faultFree stored valid]
  exact ⟨⟨_, rfl⟩, rfl⟩

theorem afterPasses_of_pass_eq (fixed : (c.pass k now).2 = c) (count : Nat) :
    c.afterPasses k now count = c := by
  induction count with
  | zero => rfl
  | succ count ih => rw [afterPasses_succ, fixed, ih]

theorem settlesAfter_zero {o : PassOutcome} (ok : (c.pass k now).1.outcome = .ok o)
    (again : ∃ o', ((c.pass k now).2.pass k now).1.outcome = .ok o')
    (fixed : ((c.pass k now).2.pass k now).2 = (c.pass k now).2) : SettlesAfter c k now 0 := by
  have later : ∀ i, c.afterPasses k now (i + 1) = (c.pass k now).2 := fun i => by
    rw [afterPasses_succ, afterPasses_of_pass_eq fixed]
  constructor
  · exact fun i lt => absurd lt (Nat.not_lt_zero i)
  · intro i _
    cases i with
    | zero => exact ⟨o, ok⟩
    | succ i =>
      rw [later]
      exact again
  · intro i gt
    cases i with
    | zero => exact absurd gt (Nat.lt_irrefl 0)
    | succ i => rw [later, later]

theorem SettlesAfter.succ {f : Failure} {failures : Nat}
    (h : SettlesAfter (c.pass k now).2 k now failures)
    (failed : (c.pass k now).1.outcome = .error f) (asks : AsksNode c (c.pass k now).2) :
    SettlesAfter c k now (failures + 1) := by
  constructor
  · intro i lt
    cases i with
    | zero => exact ⟨⟨f, failed⟩, asks⟩
    | succ i => exact h.failing i (Nat.lt_of_succ_lt_succ lt)
  · intro i ge
    cases i with
    | zero => exact absurd ge (Nat.not_succ_le_zero failures)
    | succ i => exact h.succeeding i (Nat.le_of_succ_le_succ ge)
  · intro i gt
    cases i with
    | zero => exact absurd gt (Nat.not_lt_zero _)
    | succ i => exact h.settled i (Nat.lt_of_succ_lt_succ gt)

/-- Every failure leaves fewer nodes to ask, so there are no more failures than those. -/
theorem FaultFree.exists_settlesAfter (faultFree : c.FaultFree) (sound : c.Sound)
    (stored : c.policies.objects.get? k = some policy) (valid : policy.spec.validate = .ok ()) :
    ∃ failures ≤ c.unaskedNodes.length, SettlesAfter c k now failures := by
  -- a failing pass may ask several nodes before it stops, so the number can fall by more than one
  induction unasked : c.unaskedNodes.length using Nat.strongRecOn generalizing c with
  | ind count ih =>
    cases outcome : (c.pass k now).1.outcome with
    | ok o =>
      obtain ⟨again, fixed⟩ := faultFree.pass_again sound stored valid outcome
      exact ⟨0, Nat.zero_le count, settlesAfter_zero outcome again fixed⟩
    | error f =>
      have frame := frame_pass sound k now
      have asks := faultFree.asksNode_of_failed sound stored valid outcome
      have fewer := frame.length_unaskedNodes_lt asks
      obtain ⟨failures, le, rest⟩ := ih _ (unasked ▸ fewer) (faultFree.pass k now)
        (sound.pass k now) (frame.policies ▸ stored) rfl
      exact ⟨failures + 1, by omega, rest.succ outcome asks⟩

/-- Where nothing is wrong, passes of a sound policy that are tried again at the same time succeed
after at most as many failures as there are nodes. -/
theorem exists_settlesAfter_le_nodes (reached : c.Reached) (faultFree : c.FaultFree)
    (stored : c.policies.objects.get? k = some policy) (valid : policy.spec.validate = .ok ())
    (now : Instant) :
    ∃ failures ≤ c.nodes.objects.size, SettlesAfter c k now failures := by
  obtain ⟨failures, le, settles⟩ := faultFree.exists_settlesAfter reached.sound stored valid
  exact ⟨failures, Nat.le_trans le c.length_unaskedNodes_le, settles⟩

/-- Two masters on the one node of a cluster cost one failure: the second pass finds the node asked
by the first. -/
theorem twins_settlesAfter :
    (Sample.twins.Reached ∧ Sample.twins.FaultFree ∧
      Sample.twins.policies.objects.get? (key Sample.policy) = some Sample.policy ∧
      Sample.policy.spec.validate = .ok ()) ∧
    SettlesAfter Sample.twins (key Sample.policy) .epoch 1 := by
  have reached : Sample.twins.Reached := reached_ofLists ..
  have faultFree : Sample.twins.FaultFree := faultFree_ofLists ..
  have stored : Sample.twins.policies.objects.get? (key Sample.policy) = some Sample.policy :=
    Sample.stored_policy
  have valid := Sample.validate_policy
  have conflict : (Sample.twins.pass (key Sample.policy) .epoch).1.outcome =
      .error (.conflict "Node" "n0") := by decide
  refine ⟨⟨reached, faultFree, stored, valid⟩, ?_⟩
  have nodes : Sample.twins.nodes.objects.size = 1 := by decide
  obtain ⟨failures, le, settles⟩ :=
    exists_settlesAfter_le_nodes reached faultFree stored valid .epoch
  rw [nodes] at le
  match failures with
  | 0 =>
    obtain ⟨o, ok⟩ := settles.succeeding 0 (Nat.le_refl 0)
    rw [afterPasses_zero, conflict] at ok
    cases ok
  | 1 => exact settles
  | _ + 2 => omega

end FleetHealth.Cluster
