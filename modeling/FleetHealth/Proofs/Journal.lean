import FleetHealth.Proofs.Attempts
import FleetHealth.Proofs.Retrying
/-!
Whole runs of a controller, with a journal of the writes that it has made by then. Every entry is
the deletion of a machine that there was at first, or a request to a node that had not been asked at
first, and no entry is made twice. The journal explains all that has changed, so that a run makes no
more writes than there were machines and unasked nodes to begin with.
-/

namespace FleetHealth

open ClusterObject

variable {m : Type → Type} [Monad m]

def WriteRequest.journaling {β : Type} (w : WriteRequest) (x : m (Except Failure β)) :
    StateT (List WriteRequest) m (Except Failure β) := do
  let result ← monadLift x
  if result.isOk then modify (· ++ [w])
  return result

/-- Operations that log the writes that they make, and not those that are refused. -/
def Repository.journaled {α : Type} [ClusterObject α] (r : Repository m α) :
    Repository (StateT (List WriteRequest) m) α where
  get k := monadLift (r.get k)
  list ns selector := monadLift (r.list ns selector)
  replace a := (WriteRequest.replace (kind α) (key a)).journaling (r.replace a)
  delete k := (WriteRequest.delete (kind α) k).journaling (r.delete k)

def Store.journaled (s : Store m) : Store (StateT (List WriteRequest) m) where
  policies := s.policies.journaled
  machines := s.machines.journaled
  machineSets := s.machineSets.journaled
  nodes := s.nodes.journaled

namespace Cluster

def made (c : Cluster) (t : Target) : List WriteRequest :=
  match t.nodeToReboot? with
  | some n => if (c.nodes.replace n.requestReboot).1.isOk then t.writes else []
  | none => if (c.machines.delete t.key).1.isOk then t.writes else []

def journaledStep : Event → StateT (List WriteRequest) (StateM Cluster) Unit
  | .pass k now => discard (store.journaled.pass k now)
  | .fault fault part => monadLift (modify (·.setFault fault part) : StateM Cluster Unit)

def journaledRun (events : List Event) : StateT (List WriteRequest) (StateM Cluster) Unit :=
  events.forM journaledStep

def possibleWrites (c : Cluster) : List WriteRequest :=
  c.machines.objects.keys.map (.delete Machine.kind) ++ c.unaskedNodes.map (.replace Node.kind)

structure Journal (c : Cluster) (log : List WriteRequest) (c' : Cluster) : Prop where
  nodup : log.Nodup
  possible : log ⊆ c.possibleWrites
  machines : ∀ k, c'.machines.objects.get? k =
    if .delete Machine.kind k ∈ log then none else c.machines.objects.get? k
  nodes : ∀ k, c'.nodes.objects.get? k =
    if .replace Node.kind k ∈ log then (c.nodes.objects.get? k).map Node.rebooted
    else c.nodes.objects.get? k
  mutations : c'.mutations = c.mutations + log.length

/-- A first pass fails at the worker, which a second pass deletes; a third one has nothing to do. -/
def Sample.events : List Event :=
  [.fault (.writes .conflict) .machines, .pass (key policy) .epoch, .fault .none .machines,
    .pass (key policy) .epoch, .pass (key policy) .epoch]

variable {c c₁ c₂ : Cluster} {log writes : List WriteRequest} {t : Target} {k : Key} {n : Node}

/-! The writes of one remediation -/

theorem runLogged_journaling {β : Type} (w : WriteRequest) (x : StateM Cluster (Except Failure β)) :
    runLogged (w.journaling x) log c =
      (((x.run c).1, log ++ if (x.run c).1.isOk then [w] else []), (x.run c).2) := by
  rw [WriteRequest.journaling, runLogged_bind, runLogged_lift]
  rcases x.run c with ⟨f | b, c₁⟩
  · exact runLogged_pure _
  · rfl

theorem made_of_idle (notReplace : t.plan ≠ .replace) (idle : t.nodeToReboot? = none) :
    c.made t = [] := by
  rw [made, idle, Target.writes_of_idle notReplace idle]
  exact ite_self _

theorem made_of_node (h : t.nodeToReboot? = some n) :
    c.made t =
      if (c.nodes.replace n.requestReboot).1.isOk then [.replace Node.kind (key n)] else [] := by
  rw [made, h, Target.writes_of_node h]

theorem made_of_replace (h : t.plan = .replace) :
    c.made t =
      if (c.machines.delete t.key).1.isOk then [.delete Machine.kind t.key] else [] := by
  rw [made, Target.nodeToReboot?_of_replace h, Target.writes_of_replace h]

theorem notes_journaled : Notes store.journaled made where
  reads := ⟨fun _ => rfl, fun _ _ => rfl, fun _ => rfl⟩
  execute c t log := by
    cases t.call with
    | idle notReplace idle =>
      rw [execute, Store.execute_of_idle _ notReplace idle, Store.execute_of_idle _ notReplace idle,
        made_of_idle notReplace idle]
      exact runLogged_pure _
    | reboot n node =>
      have written : runLogged (store.journaled.nodes.replace n.requestReboot) log c =
        (((c.nodes.replace n.requestReboot).1,
            log ++ if (c.nodes.replace n.requestReboot).1.isOk then [.replace Node.kind (key n)]
              else []),
          { c with nodes := (c.nodes.replace n.requestReboot).2 }) := runLogged_journaling _ _
      rw [execute_reboot c node, Store.execute_of_node _ node, made_of_node node, runLogged_bind,
        written]
      rcases c.nodes.replace n.requestReboot with ⟨f | b, nodes⟩
      · rfl
      · rfl
    | replace plan =>
      have deleted : runLogged (store.journaled.machines.delete t.key) log c =
        (((c.machines.delete t.key).1,
            log ++ if (c.machines.delete t.key).1.isOk then [.delete Machine.kind t.key] else []),
          { c with machines := (c.machines.delete t.key).2 }) := runLogged_journaling _ _
      rw [execute_replace c plan, plan, Store.execute, Store.removeMachine, made_of_replace plan,
        runLogged_bind, deleted]
      rcases c.machines.delete t.key with ⟨f | u, machines⟩
      · cases f <;> rfl
      · rfl

/-- The effect of remediation on what a cluster stores, and the writes that it makes for it. -/
inductive Made (c : Cluster) (t : Target) : List WriteRequest → Cluster → Prop
  | nothing {c' : Cluster} : c'.settled = c.settled → Made c t [] c'
  | deleted : c.machines.objects.contains t.key = true →
      Made c t [.delete Machine.kind t.key] (c.withMachineDeleted t.key)
  | rebooted {n stored : Node} : t.nodeToReboot? = some n →
      c.nodes.objects.get? (key n) = some stored →
      Collection.isStale stored n.requestReboot = false →
      Made c t [.replace Node.kind (key n)] (c.withNodeRebooted stored n)

theorem made_of_execute {r : Except Failure Unit} (h : c.execute t = (r, c₁)) :
    c.Made t (c.made t) c₁ := by
  cases t.call with
  | idle notReplace idle =>
    rw [execute_idle c notReplace idle] at h
    cases h
    rw [made_of_idle notReplace idle]
    exact .nothing rfl
  | reboot n node =>
    rw [execute_reboot c node] at h
    rw [made_of_node node, ← (Prod.mk.inj h).2]
    cases result : (c.nodes.replace n.requestReboot).1 with
    | error f =>
      have nodes := Collection.settled_replace_error result
      exact .nothing (by simp [settled, nodes])
    | ok b =>
      obtain ⟨-, stored, found, fresh, -, eq⟩ := Collection.replace_ok result
      rw [eq]
      exact .rebooted node found fresh
  | replace plan =>
    rw [execute_replace c plan] at h
    rw [made_of_replace plan, ← (Prod.mk.inj h).2]
    cases result : (c.machines.delete t.key).1 with
    | error f =>
      have machines := Collection.settled_delete_error result
      exact .nothing (by simp [settled, machines])
    | ok u =>
      obtain ⟨-, found, eq⟩ := Collection.delete_ok result
      rw [eq]
      exact .deleted found

/-! What is possible -/

theorem delete_mem_possibleWrites :
    .delete Machine.kind k ∈ c.possibleWrites ↔ c.machines.objects.contains k = true := by
  simp [possibleWrites, Table.mem_keys_iff]

theorem replace_mem_possibleWrites :
    .replace Node.kind k ∈ c.possibleWrites ↔ k ∈ c.unaskedNodes := by
  simp [possibleWrites]

namespace Journal

theorem nil (c : Cluster) : Journal c [] c where
  nodup := .nil
  possible := List.nil_subset _
  machines _ := rfl
  nodes _ := rfl
  mutations := rfl

theorem of_objects_eq (h : Journal c log c₁) (machines : c₂.machines.objects = c₁.machines.objects)
    (nodes : c₂.nodes.objects = c₁.nodes.objects) (mutations : c₂.mutations = c₁.mutations) :
    Journal c log c₂ where
  nodup := h.nodup
  possible := h.possible
  machines k := by rw [machines, h.machines]
  nodes k := by rw [nodes, h.nodes]
  mutations := by rw [mutations, h.mutations]

theorem of_settled_eq (h : Journal c log c₁) (eq : c₂.settled = c₁.settled) : Journal c log c₂ :=
  h.of_objects_eq (congrArg (·.machines.objects) eq :) (congrArg (·.nodes.objects) eq :)
    (congrArg Cluster.mutations eq :)

theorem setFault (h : Journal c log c₁) (fault : Fault) (part : Part) :
    Journal c log (c₁.setFault fault part) := by
  cases part <;> cases fault <;> exact h.of_objects_eq rfl rfl rfl

theorem nodup_append {w : WriteRequest} (h : Journal c log c₁) (new : w ∉ log) :
    (log ++ [w]).Nodup := by
  rw [← List.concat_eq_append]
  exact h.nodup.concat new

theorem possible_append {w : WriteRequest} (h : Journal c log c₁) (possible : w ∈ c.possibleWrites) :
    log ++ [w] ⊆ c.possibleWrites := by
  rw [List.append_subset, List.cons_subset]
  exact ⟨h.possible, possible, List.nil_subset _⟩

theorem deleted (h : Journal c log c₁) (found : c₁.machines.objects.contains k = true) :
    Journal c (log ++ [.delete Machine.kind k]) (c₁.withMachineDeleted k) := by
  have own := h.machines k
  -- the journal says that what it has deleted is there no more
  have new : .delete Machine.kind k ∉ log := by
    intro mem
    rw [if_pos mem] at own
    rw [Table.contains, own] at found
    cases found
  rw [if_neg new] at own
  constructor
  · exact h.nodup_append new
  · apply h.possible_append
    rw [delete_mem_possibleWrites, Table.contains, ← own]
    exact found
  · intro k'
    change (c₁.machines.objects.erase k).get? k' = _
    by_cases eq : k' = k
    · subst eq
      simp [Table.get?_erase]
    · rw [Table.get?_erase_of_ne _ eq, h.machines]
      simp [eq]
  · intro k'
    change c₁.nodes.objects.get? k' = _
    rw [h.nodes]
    simp
  · rw [List.length_append, ← Nat.add_assoc, ← h.mutations]
    simp only [Cluster.mutations, withMachineDeleted, Collection.mutations, List.length_singleton]
    omega

theorem rebooted (h : Journal c log c₁) (found : c₁.nodes.objects.get? (key n) = some n)
    (unasked : n.hasRebootRequest = false) :
    Journal c (log ++ [.replace Node.kind (key n)]) (c₁.withNodeRebooted n n) := by
  have own := h.nodes (key n)
  -- the journal says that what it has written has a request by now, which `n` has not
  have new : .replace Node.kind (key n) ∉ log := by
    intro mem
    rw [if_pos mem, found, eq_comm, Option.map_eq_some_iff] at own
    obtain ⟨m, -, rfl⟩ := own
    rw [m.hasRebootRequest_rebooted] at unasked
    cases unasked
  rw [if_neg new, found] at own
  constructor
  · exact h.nodup_append new
  · apply h.possible_append
    rw [replace_mem_possibleWrites, mem_unaskedNodes]
    exact ⟨n, own.symm, unasked⟩
  · intro k'
    change c₁.machines.objects.get? k' = _
    rw [h.machines]
    simp
  · intro k'
    change (c₁.nodes.objects.insert (key n) n.rebooted).get? k' = _
    by_cases eq : k' = key n
    · subst eq
      rw [Table.get?_insert_self, if_pos (by simp), ← own]
      rfl
    · rw [Table.get?_insert_of_ne _ _ eq, h.nodes]
      simp [eq]
  · rw [List.length_append, ← Nat.add_assoc, ← h.mutations]
    simp only [Cluster.mutations, withNodeRebooted, Collection.mutations, List.length_singleton]
    omega

theorem executed {c₀ : Cluster} (h : Journal c log c₁) (sound : c₀.Sound) (frame : Frame c₀ c₁)
    (resolved : t = c₀.targetOf t.machine) (step : c₁.Made t writes c₂) :
    Journal c (log ++ writes) c₂ := by
  cases step with
  | nothing eq =>
    rw [List.append_nil]
    exact h.of_settled_eq eq
  | deleted found => exact h.deleted found
  | @rebooted n stored node found fresh =>
    obtain ⟨-, slot, unasked⟩ := Target.nodeToReboot?_eq_some_iff.mp node
    rw [resolved] at slot
    have eq := frame.eq_of_fresh sound (get?_of_slotOf sound slot) found fresh
    subst eq
    exact h.rebooted found unasked

theorem pass (h : Journal c log c₁) (sound : c₁.Sound) (k : Key) (now : Instant) :
    Journal c (log ++ c₁.actNoted made (c₁.survey k now)) (c₁.pass k now).2 := by
  have kept : Journal c (log ++ c₁.actNoted made (c₁.survey k now)) (c₁.pass k now).2 ∧
      Frame c₁ (c₁.pass k now).2 := by
    refine actNoted_induction (P := fun log c₂ => Journal c log c₂ ∧ Frame c₁ c₂) ?_ ⟨h, .refl c₁⟩
    rintro survey surveyed t mem log c₂ r c₃ ⟨journal, frame⟩ result
    obtain ⟨policy, -, -, surveyed⟩ := survey_ok surveyed
    have resolved := (selects_of_mem_unhealthyTargets sound surveyed mem).1
    exact ⟨journal.executed sound frame resolved (made_of_execute result),
      frame.execute sound resolved result⟩
  exact kept.1

theorem mutations_le (h : Journal c log c₁) :
    c₁.mutations ≤ c.mutations + c.machines.objects.size + c.unaskedNodes.length := by
  have le := (List.subperm_of_subset h.nodup h.possible).length_le
  rw [possibleWrites, List.length_append, List.length_map, List.length_map, Table.keys,
    List.length_map] at le
  rw [h.mutations, Nat.add_assoc]
  exact Nat.add_le_add_left le _

/-! Runs -/

theorem step (h : Journal c log c₁) (sound : c₁.Sound) (event : Event) :
    ∃ log', runLogged (journaledStep event) log c₁ = (((), log'), c₁.step event) ∧
      Journal c log' (c₁.step event) := by
  cases event with
  | pass k now =>
    refine ⟨_, ?_, h.pass sound k now⟩
    change runLogged (store.journaled.pass k now >>= fun _ => pure ()) log c₁ = _
    rw [runLogged_bind, notes_journaled.pass]
    rfl
  | fault fault part => exact ⟨log, rfl, h.setFault fault part⟩

theorem run (h : Journal c log c₁) (sound : c₁.Sound) (events : List Event) :
    ∃ log', runLogged (journaledRun events) log c₁ = (((), log'), c₁.run events) ∧
      Journal c log' (c₁.run events) := by
  induction events generalizing c₁ log with
  | nil => exact ⟨log, rfl, h⟩
  | cons event events ih =>
    obtain ⟨log₁, first, journal⟩ := h.step sound event
    obtain ⟨log₂, rest, journal⟩ := ih journal (sound.step event)
    refine ⟨log₂, ?_, journal⟩
    change runLogged (journaledStep event >>= fun _ => journaledRun events) log c₁ = _
    rw [runLogged_bind, first]
    exact rest

end Journal

/-- What a run of any passes leaves of a cluster, under whatever faults: policies and machine sets as
they were, machines only of those that there were, and nodes that have gained a request to reboot at
most. No machine is deleted and no node written more than once, and there are no more writes than
machines and unasked nodes to begin with. -/
theorem run_journaled (reached : c.Reached) (events : List Event) :
    ∃ writes, runLogged (journaledRun events) [] c = (((), writes), c.run events) ∧
      Frame c (c.run events) ∧ Journal c writes (c.run events) ∧
      (c.run events).mutations ≤ c.mutations + c.machines.objects.size + c.unaskedNodes.length := by
  obtain ⟨writes, logged, journal⟩ := (Journal.nil c).run reached.sound events
  exact ⟨writes, logged, frame_run reached.sound events, journal, journal.mutations_le⟩

theorem sample_run_journaled :
    Sample.cluster.Reached ∧ Frame Sample.cluster (Sample.cluster.run Sample.events) ∧
      Journal Sample.cluster
        [.replace Node.kind (key (Sample.node "n0")), .delete Machine.kind (key Sample.worker)]
        (Sample.cluster.run Sample.events) := by
  obtain ⟨writes, logged, frame, journal, -⟩ :=
    run_journaled Sample.reached_cluster Sample.events
  have own : (runLogged (journaledRun Sample.events) [] Sample.cluster).1.2 =
      [.replace Node.kind (key (Sample.node "n0")), .delete Machine.kind (key Sample.worker)] := by
    decide
  rw [logged] at own
  exact ⟨Sample.reached_cluster, frame, own ▸ journal⟩

end Cluster

end FleetHealth
