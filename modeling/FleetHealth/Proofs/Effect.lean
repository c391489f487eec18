import FleetHealth.Proofs.Run

namespace FleetHealth

open ClusterObject

def replacedKeys (ts : List Target) : List Key :=
  (ts.filter fun t => t.plan = .replace).map Target.key

def rebootedNodes (ts : List Target) : List Node := ts.filterMap Target.nodeToReboot?

@[simp] theorem replacedKeys_nil : replacedKeys [] = [] := rfl

@[simp] theorem rebootedNodes_nil : rebootedNodes [] = [] := rfl

theorem replacedKeys_cons_of_eq {t : Target} (h : t.plan = .replace) (ts : List Target) :
    replacedKeys (t :: ts) = t.key :: replacedKeys ts := by
  simp [replacedKeys, h]

theorem replacedKeys_cons_of_ne {t : Target} (h : t.plan ≠ .replace) (ts : List Target) :
    replacedKeys (t :: ts) = replacedKeys ts := by
  simp [replacedKeys, h]

theorem rebootedNodes_cons_of_some {t : Target} {n : Node} (h : t.nodeToReboot? = some n)
    (ts : List Target) : rebootedNodes (t :: ts) = n :: rebootedNodes ts := by
  simp [rebootedNodes, h]

theorem rebootedNodes_cons_of_none {t : Target} (h : t.nodeToReboot? = none) (ts : List Target) :
    rebootedNodes (t :: ts) = rebootedNodes ts := by
  simp [rebootedNodes, h]

theorem rebootedNodes_append (ts ts' : List Target) :
    rebootedNodes (ts ++ ts') = rebootedNodes ts ++ rebootedNodes ts' :=
  List.filterMap_append

theorem mem_replacedKeys {ts : List Target} {k : Key} :
    k ∈ replacedKeys ts ↔ ∃ t ∈ ts, t.plan = .replace ∧ t.key = k := by
  simp [replacedKeys, and_assoc]

theorem mem_rebootedNodes {ts : List Target} {n : Node} :
    n ∈ rebootedNodes ts ↔ ∃ t ∈ ts, t.nodeToReboot? = some n :=
  List.mem_filterMap

theorem nodup_replacedKeys {ts : List Target} (h : (ts.map Target.key).Nodup) :
    (replacedKeys ts).Nodup :=
  h.sublist (List.filter_sublist.map Target.key)

theorem Target.nodeToReboot?_of_replace {t : Target} (h : t.plan = .replace) :
    t.nodeToReboot? = none := by
  simp [Target.nodeToReboot?, h]

theorem Target.plan_ne_replace_of_node {t : Target} {n : Node} (h : t.nodeToReboot? = some n) :
    t.plan ≠ .replace := by
  rw [(Target.nodeToReboot?_eq_some_iff.mp h).1]
  simp

theorem length_replacedKeys_add_le (ts : List Target) :
    (replacedKeys ts).length + (rebootedNodes ts).length ≤ ts.length := by
  induction ts with
  | nil => simp
  | cons t ts ih =>
    cases t.call with
    | idle notReplace idle =>
      rw [replacedKeys_cons_of_ne notReplace, rebootedNodes_cons_of_none idle, List.length_cons]
      exact Nat.le_succ_of_le ih
    | reboot n node =>
      rw [replacedKeys_cons_of_ne (Target.plan_ne_replace_of_node node),
        rebootedNodes_cons_of_some node, List.length_cons, List.length_cons]
      exact Nat.succ_le_succ ih
    | replace plan =>
      rw [replacedKeys_cons_of_eq plan,
        rebootedNodes_cons_of_none (Target.nodeToReboot?_of_replace plan), List.length_cons,
        List.length_cons, Nat.add_right_comm]
      exact Nat.succ_le_succ ih

def Node.afterReboots (ns : List Node) (n : Node) : Node := if n ∈ ns then n.rebooted else n

@[simp] theorem Node.afterReboots_nil : Node.afterReboots [] = id := by
  funext n
  simp [Node.afterReboots]

theorem Node.afterReboots_of_not_mem {ns : List Node} {n : Node} (h : n ∉ ns) :
    n.afterReboots ns = n := if_neg h

theorem Node.afterReboots_of_mem {ns : List Node} {n : Node} (h : n ∈ ns) :
    n.afterReboots ns = n.rebooted := if_pos h

theorem Node.afterReboots_cons_of_ne {ns : List Node} {n m : Node} (h : m ≠ n) :
    m.afterReboots (n :: ns) = m.afterReboots ns := by
  simp [Node.afterReboots, h]

namespace Cluster

/-- The difference between two clusters that comes of deleting machines under some keys and asking
some nodes to reboot. -/
structure Effect (c : Cluster) (ks : List Key) (ns : List Node) (c' : Cluster) : Prop where
  policies : c'.policies = c.policies
  machineSets : c'.machineSets = c.machineSets
  machines : c'.machines = { c.machines with
    objects := c.machines.objects.without ks
    deletes := c.machines.deletes + ks.length }
  stored : ∀ n ∈ ns, c.nodes.objects.get? (key n) = some n
  unasked : ∀ n ∈ ns, n.hasRebootRequest = false
  nodup : (ns.map key).Nodup
  nodes : ∀ k, c'.nodes.objects.get? k = (c.nodes.objects.get? k).map (Node.afterReboots ns)
  nodeMutations : c'.nodes.mutations = c.nodes.mutations + ns.length

variable {c c' : Cluster} {ks : List Key} {ns : List Node}

theorem Effect.nil (c : Cluster) : Effect c [] [] c where
  policies := rfl
  machineSets := rfl
  machines := by simp
  stored := by simp
  unasked := by simp
  nodup := .nil
  nodes k := by simp
  nodeMutations := rfl

theorem Effect.deleted {k : Key} (rest : Effect (c.withMachineDeleted k) ks ns c') :
    Effect c (k :: ks) ns c' where
  policies := rest.policies
  machineSets := rest.machineSets
  machines := by
    rw [rest.machines, Table.without_cons, List.length_cons]
    simp only [withMachineDeleted]
    rw [Nat.add_right_comm, Nat.add_assoc]
  stored := rest.stored
  unasked := rest.unasked
  nodup := rest.nodup
  nodes := rest.nodes
  nodeMutations := rest.nodeMutations

theorem Effect.rebooted_not_mem (h : Effect c ks ns c') (n : Node) : n.rebooted ∉ ns := by
  intro mem
  have unasked := h.unasked _ mem
  rw [n.hasRebootRequest_rebooted] at unasked
  cases unasked

/-- The same node is not asked again: it has its request by then. -/
theorem Effect.rebooted {n : Node} (sound : c.Sound) (unasked : n.hasRebootRequest = false)
    (found : c.nodes.objects.get? (key n) = some n)
    (rest : Effect (c.withNodeRebooted n n) ks ns c') : Effect c ks (n :: ns) c' := by
  have own : (c.withNodeRebooted n n).nodes.objects.get? (key n) = some n.rebooted :=
    Table.get?_insert_self ..
  have others : ∀ {k}, k ≠ key n →
      (c.withNodeRebooted n n).nodes.objects.get? k = c.nodes.objects.get? k :=
    fun ne => Table.get?_insert_of_ne _ _ ne
  -- what is still to be asked is stored unasked, which `n` no longer is
  have later : ∀ m ∈ ns, key m ≠ key n := by
    intro m mem eq
    have same := rest.stored m mem
    rw [eq, own] at same
    cases same
    exact rest.rebooted_not_mem n mem
  constructor
  · exact rest.policies
  · exact rest.machineSets
  · exact rest.machines
  · intro m mem
    cases mem with
    | head => exact found
    | tail _ mem => rw [← others (later m mem), rest.stored m mem]
  · intro m mem
    cases mem with
    | head => exact unasked
    | tail _ mem => exact rest.unasked m mem
  · rw [List.map_cons, List.nodup_cons, List.mem_map]
    refine ⟨?_, rest.nodup⟩
    rintro ⟨m, mem, eq⟩
    exact later m mem eq
  · intro k
    rw [rest.nodes]
    by_cases eq : k = key n
    · rw [eq, own, found, Option.map_some, Option.map_some,
        Node.afterReboots_of_not_mem (rest.rebooted_not_mem n),
        Node.afterReboots_of_mem List.mem_cons_self]
    · rw [others eq]
      apply Option.map_congr
      intro m stored
      apply (Node.afterReboots_cons_of_ne _).symm
      intro same
      rw [← sound.nodes.keyed stored, same] at eq
      exact eq rfl
  · rw [rest.nodeMutations, List.length_cons]
    simp only [withNodeRebooted, Collection.mutations]
    omega

variable {t : Target} {ts : List Target}

/-- Remediation without faults, target by target, has exactly the effect of all of them. -/
theorem effect_of_remediates {c₀ : Cluster} (sound₀ : c₀.Sound)
    (resolved : ∀ t ∈ ts, t = c₀.targetOf t.machine) (frame : Frame c₀ c) (sound : c.Sound)
    (fault : c.machines.fault = .none) (nodup : (replacedKeys ts).Nodup)
    (present : ∀ k ∈ replacedKeys ts, c.machines.objects.contains k = true)
    (h : Remediates c ts c') : Effect c (replacedKeys ts) (rebootedNodes ts) c' := by
  -- `c` moves along the targets, while `c₀` stays the cluster that they were resolved in
  induction h with
  | nil => exact .nil _
  | @cons c c₁ c' t ts first _ ih =>
    have result : c.execute t = (.ok (), c₁) := (remediate_ok_iff.mp first).2
    have own : t = c₀.targetOf t.machine := resolved t List.mem_cons_self
    have rest := ih (fun t' mem => resolved t' (List.mem_cons_of_mem _ mem))
      (frame.execute sound₀ own result) (sound.execute result)
    cases remediated_of_execute_ok result with
    | idle notReplace idle eq =>
      subst eq
      rw [replacedKeys_cons_of_ne notReplace] at nodup present ⊢
      rw [rebootedNodes_cons_of_none idle]
      exact rest fault nodup present
    | deleted plan _ _ =>
      rw [replacedKeys_cons_of_eq plan] at nodup present ⊢
      rw [rebootedNodes_cons_of_none (Target.nodeToReboot?_of_replace plan)]
      refine (rest fault nodup.of_cons ?_).deleted
      intro k mem
      have ne : k ≠ t.key := by
        rintro rfl
        exact (List.nodup_cons.mp nodup).1 mem
      change ((c.machines.objects.erase t.key).get? k).isSome = true
      rw [Table.get?_erase_of_ne _ ne]
      exact present k (List.mem_cons_of_mem _ mem)
    | gone plan missing _ =>
      have stored : c.machines.objects.contains t.key = true :=
        present t.key (by simp [replacedKeys_cons_of_eq plan])
      rw [missing fault] at stored
      cases stored
    | @rebooted n stored node _ found fresh =>
      obtain ⟨plan, slot, unasked⟩ := Target.nodeToReboot?_eq_some_iff.mp node
      rw [replacedKeys_cons_of_ne (by simp [plan])] at nodup present ⊢
      rw [rebootedNodes_cons_of_some node]
      have old : c₀.nodes.objects.get? (key n) = some n := by
        rw [own] at slot
        exact get?_of_slotOf sound₀ slot
      have eq := frame.eq_of_fresh sound₀ old found fresh
      subst eq
      exact (rest fault nodup present).rebooted sound unasked found

def changedNodes (c c' : Cluster) : List Key :=
  c.nodes.objects.keys.filter fun k => c'.nodes.objects.get? k ≠ c.nodes.objects.get? k

theorem Effect.node_eq (h : Effect c ks ns c') {k : Key} {n n' : Node}
    (before : c.nodes.objects.get? k = some n) (after : c'.nodes.objects.get? k = some n') :
    n' = n.afterReboots ns := by
  have left := h.nodes k
  rw [before, after] at left
  exact Option.some.inj left

theorem Effect.node_ne_iff (h : Effect c ks ns c') {k : Key} {n n' : Node}
    (before : c.nodes.objects.get? k = some n) (after : c'.nodes.objects.get? k = some n') :
    n' ≠ n ↔ n ∈ ns := by
  rw [h.node_eq before after]
  by_cases mem : n ∈ ns
  · simp [Node.afterReboots_of_mem mem, Node.rebooted_ne (h.unasked n mem), mem]
  · simp [Node.afterReboots_of_not_mem mem, mem]

theorem Effect.mem_changedNodes (h : Effect c ks ns c') (sound : c.Sound) {k : Key} :
    k ∈ changedNodes c c' ↔ k ∈ ns.map key := by
  rw [changedNodes, List.mem_filter, Table.mem_keys_iff, decide_eq_true_iff, List.mem_map]
  constructor
  · rintro ⟨found, changed⟩
    obtain ⟨n, stored⟩ := Option.isSome_iff_exists.mp found
    refine ⟨n, ?_, sound.nodes.keyed stored⟩
    rw [h.nodes, stored, Option.map_some] at changed
    by_contra other
    rw [Node.afterReboots_of_not_mem other] at changed
    exact changed rfl
  · rintro ⟨n, mem, rfl⟩
    have stored := h.stored n mem
    refine ⟨by simp [Table.contains, stored], ?_⟩
    rw [h.nodes, stored, Option.map_some, Node.afterReboots_of_mem mem, ne_eq, Option.some.injEq]
    exact Node.rebooted_ne (h.unasked n mem)

theorem Effect.length_changedNodes (h : Effect c ks ns c') (sound : c.Sound) :
    (changedNodes c c').length = ns.length := by
  have perm : (changedNodes c c').Perm (ns.map key) :=
    (List.perm_ext_iff_of_nodup ((Table.nodup_keys _).filter _) h.nodup).mpr
      fun _ => h.mem_changedNodes sound
  rw [perm.length_eq, List.length_map]

theorem Effect.mutations (h : Effect c ks ns c') :
    c'.mutations = c.mutations + ks.length + ns.length := by
  rw [Cluster.mutations, h.nodeMutations, h.policies, h.machineSets, h.machines]
  simp only [Cluster.mutations, Collection.mutations]
  omega

structure PassEffect (c : Cluster) (ts : List Target) (c' : Cluster) : Prop where
  machines : c'.machines.objects = c.machines.objects.without (replacedKeys ts)
  sameNodes : ∀ k, c'.nodes.objects.contains k = c.nodes.objects.contains k
  changedNode : ∀ {k n n'}, c.nodes.objects.get? k = some n → c'.nodes.objects.get? k = some n' →
    (n' ≠ n ↔ ∃ t ∈ ts, t.plan = .reboot ∧ t.node = .present n ∧ n.hasRebootRequest = false) ∧
      (n' ≠ n → n' = Collection.successor n n.requestReboot)
  requested : ∀ {k n n'}, c.nodes.objects.get? k = some n → c'.nodes.objects.get? k = some n' →
    n' ≠ n → n.metadata.annotation? "healthchecking.openshift.io/machine-remediation-reboot" = none ∧
      n.Requested n'
  policies : c'.policies = c.policies
  machineSets : c'.machineSets = c.machineSets
  mutations : c'.mutations = c.mutations + (replacedKeys ts).length + (changedNodes c c').length
  atMostOneEach : (replacedKeys ts).length + (changedNodes c c').length ≤ ts.length

theorem Effect.passEffect (h : Effect c (replacedKeys ts) (rebootedNodes ts) c')
    (sound : c.Sound) : PassEffect c ts c' where
  machines := by rw [h.machines]
  sameNodes k := by simp [Table.contains, h.nodes]
  changedNode before after := by
    refine ⟨?_, ?_⟩
    · rw [h.node_ne_iff before after, mem_rebootedNodes]
      simp only [Target.nodeToReboot?_eq_some_iff]
    · intro changed
      have mem := (h.node_ne_iff before after).mp changed
      rw [h.node_eq before after, Node.afterReboots_of_mem mem, Node.rebooted]
  requested before after changed := by
    have mem := (h.node_ne_iff before after).mp changed
    rw [h.node_eq before after, Node.afterReboots_of_mem mem]
    exact ⟨Node.hasRebootRequest_eq_false_iff.mp (h.unasked _ mem), Node.requested_rebooted _⟩
  policies := h.policies
  machineSets := h.machineSets
  mutations := by rw [h.mutations, h.length_changedNodes sound]
  atMostOneEach := by
    rw [h.length_changedNodes sound]
    exact length_replacedKeys_add_le ts

variable {k : Key} {now : Instant} {policy : Policy} {o : PassOutcome}
  {survey : List (Target × Verdict)}

theorem effect_of_sublist {ts : List Target} (sound : c.Sound) (fault : c.machines.fault = .none)
    (surveyed : c.surveyOf policy now = .ok survey) (some : ts.Sublist (unhealthyTargets survey))
    (h : Remediates c ts c') : Effect c (replacedKeys ts) (rebootedNodes ts) c' := by
  have selected := fun t mem =>
    selects_of_mem_unhealthyTargets (t := t) sound surveyed (some.subset mem)
  have nodup : (ts.map Target.key).Nodup :=
    (nodup_unhealthyTargets sound surveyed).sublist (some.map Target.key)
  refine effect_of_remediates sound (fun t mem => (selected t mem).1) (.refl c) sound fault
    (nodup_replacedKeys nodup) ?_ h
  intro k mem
  obtain ⟨t, unhealthy, -, rfl⟩ := mem_replacedKeys.mp mem
  exact Option.isSome_iff_exists.mpr ⟨t.machine, (selected t unhealthy).2.stored⟩

theorem Succeeded.effect (h : c.Succeeded policy now o survey c') (sound : c.Sound)
    (fault : c.machines.fault = .none) :
    Effect c (replacedKeys (unhealthyTargets survey)) (rebootedNodes (unhealthyTargets survey))
      c' :=
  effect_of_sublist sound fault h.surveyed (.refl _) h.remediates

/-- What a pass that succeeds answers, and what it leaves, told by the targets of its policy. -/
theorem pass_effect (reached : c.Reached) (faultFree : c.FaultFree)
    (stored : c.policies.objects.get? k = some policy) (ok : (c.pass k now).1.outcome = .ok o) :
    ∃ targets, (store.resolve policy).run c = (.ok targets, c) ∧
      (∀ t ∈ targets, ∃ v, t.evaluate policy.spec.rules now = .ok v) ∧
      o.targets = targets.length ∧
      o.unhealthy = (targets.filter (·.isUnhealthyAt policy.spec.rules now)).length ∧
      o.remediations = (targets.filter (·.isUnhealthyAt policy.spec.rules now)).map
        (fun t => (t.key, t.plan)) ∧
      PassEffect c (targets.filter (·.isUnhealthyAt policy.spec.rules now)) (c.pass k now).2 := by
  obtain ⟨survey, succeeded⟩ := succeeded_of_outcome stored ok
  have judged := fun t v => evaluate_of_mem_surveyOf (t := t) (v := v) succeeded.surveyed
  refine ⟨survey.map Prod.fst, ?_, ?_, ?_⟩
  · rw [run_resolve, targetsOf_of_surveyOf succeeded.surveyed]
  · intro t mem
    obtain ⟨⟨t, v⟩, surveyed, rfl⟩ := List.mem_map.mp mem
    exact ⟨v, judged t v surveyed⟩
  · rw [← unhealthyTargets_eq_filter judged, List.length_map]
    exact ⟨succeeded.targets, succeeded.unhealthy, succeeded.remediations,
      (succeeded.effect reached.sound faultFree.machines).passEffect reached.sound⟩

theorem sample_pass_effect :
    (Sample.cluster.Reached ∧ Sample.cluster.FaultFree ∧
      Sample.cluster.policies.objects.get? (key Sample.policy) = some Sample.policy ∧
      (Sample.cluster.pass (key Sample.policy) .epoch).1.outcome = .ok Sample.outcome) ∧
    ∃ targets, (store.resolve Sample.policy).run Sample.cluster = (.ok targets, Sample.cluster) ∧
      (∀ t ∈ targets, ∃ v, t.evaluate [] .epoch = .ok v) ∧
      3 = targets.length ∧
      2 = (targets.filter (·.isUnhealthyAt [] .epoch)).length ∧
      [(key Sample.master, .reboot), (key Sample.worker, .replace)] =
        (targets.filter (·.isUnhealthyAt [] .epoch)).map (fun t => (t.key, t.plan)) ∧
      PassEffect Sample.cluster (targets.filter (·.isUnhealthyAt [] .epoch))
        (Sample.cluster.pass (key Sample.policy) .epoch).2 := by
  have stored : Sample.cluster.policies.objects.get? (key Sample.policy) = some Sample.policy := by
    decide
  have ok : (Sample.cluster.pass (key Sample.policy) .epoch).1.outcome = .ok Sample.outcome := by
    decide
  exact ⟨⟨Sample.reached_cluster, Sample.faultFree_cluster, stored, ok⟩,
    pass_effect Sample.reached_cluster Sample.faultFree_cluster stored ok⟩

end Cluster

end FleetHealth
