import FleetHealth.Proofs.Repetition
/-!
Passes of two policies, one after the other. What a target calls for depends on the cluster and not
on the policy that selects it. The pass that comes second finds no targets any more where the first
has deleted the machines, and has nothing to ask of the nodes that the first has asked to reboot. So
if both succeed whichever of them comes first, then both orders delete and ask the same.
-/

namespace FleetHealth

open ClusterObject

theorem append_filter_perm_comm {α : Type} [DecidableEq α] {as bs : List α} (ha : as.Nodup)
    (hb : bs.Nodup) : (as ++ bs.filter (· ∉ as)).Perm (bs ++ as.filter (· ∉ bs)) := by
  have nodup : ∀ {as bs : List α}, as.Nodup → bs.Nodup → (as ++ bs.filter (· ∉ as)).Nodup := by
    intro as bs ha hb
    refine ha.append (hb.filter _) ?_
    intro a first second
    exact of_decide_eq_true (List.mem_filter.mp second).2 first
  rw [List.perm_ext_iff_of_nodup (nodup ha hb) (nodup hb ha)]
  intro a
  simp only [List.mem_append, List.mem_filter, decide_eq_true_eq]
  tauto

theorem unhealthyTargets_filter_key (ks : List Key) (survey : List (Target × Verdict)) :
    unhealthyTargets (survey.filter fun e => e.1.key ∉ ks) =
      (unhealthyTargets survey).filter fun t => t.key ∉ ks := by
  rw [unhealthyTargets, unhealthyTargets, List.filter_map, List.filter_comm]
  rfl

theorem replacedKeys_filter_key (ks : List Key) (ts : List Target) :
    replacedKeys (ts.filter fun t => t.key ∉ ks) = (replacedKeys ts).filter (· ∉ ks) := by
  rw [replacedKeys, replacedKeys, List.filter_map, List.filter_comm]
  rfl

theorem rebootedNodes_filter_key {ks : List Key} {ts : List Target}
    (h : ∀ t ∈ ts, t.key ∈ ks → t.nodeToReboot? = none) :
    rebootedNodes (ts.filter fun t => t.key ∉ ks) = rebootedNodes ts := by
  rw [rebootedNodes, rebootedNodes, List.filterMap_filter]
  apply List.filterMap_congr
  intro t mem
  by_cases gone : t.key ∈ ks
  · simp [gone, h t mem gone]
  · simp [gone]

theorem replacedKeys_afterReboots (ns : List Node) (ts : List Target) :
    replacedKeys (ts.map (Target.afterReboots ns)) = replacedKeys ts := by
  rw [replacedKeys, replacedKeys, List.filter_map, List.map_map]
  simp only [Function.comp_def, Target.plan_afterReboots, Target.key_afterReboots]

theorem rebootedNodes_afterReboots (ns : List Node) (ts : List Target) :
    rebootedNodes (ts.map (Target.afterReboots ns)) = (rebootedNodes ts).filter (· ∉ ns) := by
  rw [rebootedNodes, rebootedNodes, List.filterMap_map, List.filter_filterMap]
  apply List.filterMap_congr
  intro t _
  exact t.nodeToReboot?_afterReboots ns

namespace Cluster

/-- The policy of the sample and one of the masters alone, so that both select the master. -/
def Sample.overlapping : Cluster :=
  .ofLists [policy, masters] [fresh, master, worker] [] [node "n0", node "n1"]

def Sample.mastersOutcome : PassOutcome where
  requeueAfter := none
  targets := 1
  unhealthy := 1
  remediations := [(key master, .reboot)]

variable {c c₁ c₂ : Cluster} {ks ks' : List Key} {ns ns' : List Node}

theorem Effect.stored_of_unasked (h : Effect c ks ns c₁) {k : Key} {n : Node}
    (found : c₁.nodes.objects.get? k = some n) (unasked : n.hasRebootRequest = false) :
    c.nodes.objects.get? k = some n ∧ n ∉ ns := by
  rw [h.nodes, Option.map_eq_some_iff] at found
  obtain ⟨m, before, rfl⟩ := found
  have new : m ∉ ns := by
    intro mem
    rw [Node.afterReboots_of_mem mem, m.hasRebootRequest_rebooted] at unasked
    cases unasked
  rw [Node.afterReboots_of_not_mem new]
  exact ⟨before, new⟩

theorem Effect.trans (h : Effect c ks ns c₁) (h' : Effect c₁ ks' ns' c₂) :
    Effect c (ks ++ ks') (ns ++ ns') c₂ := by
  -- a node that the second effect finds unasked is one that the first has left alone
  have before := fun n mem => h.stored_of_unasked (h'.stored n mem) (h'.unasked n mem)
  constructor
  · rw [h'.policies, h.policies]
  · rw [h'.machineSets, h.machineSets]
  · rw [h'.machines, h.machines, List.length_append, ← Table.without_without, ← Nat.add_assoc]
  · intro n mem
    cases List.mem_append.mp mem with
    | inl mem => exact h.stored n mem
    | inr mem => exact (before n mem).1
  · intro n mem
    cases List.mem_append.mp mem with
    | inl mem => exact h.unasked n mem
    | inr mem => exact h'.unasked n mem
  · rw [List.map_append]
    refine h.nodup.append h'.nodup ?_
    intro k first second
    obtain ⟨n, mem, rfl⟩ := List.mem_map.mp first
    obtain ⟨n', mem', same⟩ := List.mem_map.mp second
    obtain ⟨stored, new⟩ := before n' mem'
    rw [same, h.stored n mem] at stored
    cases stored
    exact new mem
  · intro k
    rw [h'.nodes, h.nodes, Option.map_map]
    apply Option.map_congr
    intro n _
    by_cases mem : n ∈ ns
    · -- it has its request by now, so it is not asked again
      rw [Function.comp_apply, Node.afterReboots_of_mem mem,
        Node.afterReboots_of_not_mem (h'.rebooted_not_mem n),
        Node.afterReboots_of_mem (List.mem_append_left ns' mem)]
    · rw [Function.comp_apply, Node.afterReboots_of_not_mem mem, Node.afterReboots,
        Node.afterReboots]
      simp [mem]
  · rw [h'.nodeMutations, h.nodeMutations, List.length_append, Nat.add_assoc]

def WritesNodes (c c' : Cluster) : Prop :=
  ∃ objects writes, c'.nodes = { c.nodes with objects, writes }

theorem WritesNodes.trans (h : WritesNodes c c₁) (h' : WritesNodes c₁ c₂) : WritesNodes c c₂ := by
  obtain ⟨objects, writes, eq⟩ := h
  obtain ⟨objects', writes', eq'⟩ := h'
  exact ⟨objects', writes', by rw [eq', eq]⟩

theorem Effect.eq_of_perm (h₁ : Effect c ks ns c₁) (h₂ : Effect c ks' ns' c₂) (keys : ks.Perm ks')
    (nodes : ns.Perm ns') (written₁ : WritesNodes c c₁) (written₂ : WritesNodes c c₂) :
    c₁ = c₂ := by
  obtain ⟨objects₁, writes₁, eq₁⟩ := written₁
  obtain ⟨objects₂, writes₂, eq₂⟩ := written₂
  have objects : objects₁ = objects₂ := by
    apply Table.ext_get?
    intro k
    have first := h₁.nodes k
    have second := h₂.nodes k
    rw [eq₁] at first
    rw [eq₂] at second
    rw [first, second]
    apply Option.map_congr
    intro n _
    rw [Node.afterReboots, Node.afterReboots]
    simp only [nodes.mem_iff]
  -- the nodes may be written in another order, but as many of them and with the same result
  have writes : writes₁ = writes₂ := by
    have first := h₁.nodeMutations
    have second := h₂.nodeMutations
    rw [eq₁] at first
    rw [eq₂] at second
    simp only [Collection.mutations, nodes.length_eq] at first second
    omega
  calc c₁ = ⟨c₁.policies, c₁.machines, c₁.machineSets, c₁.nodes⟩ := rfl
    _ = ⟨c₂.policies, c₂.machines, c₂.machineSets, c₂.nodes⟩ := by
      rw [h₁.policies, h₁.machines, h₁.machineSets, eq₁, h₂.policies, h₂.machines, h₂.machineSets,
        eq₂, objects, writes, Table.without_perm keys, keys.length_eq]
    _ = c₂ := rfl

theorem FaultFree.writesNodes_execute {t : Target} {r : Except Failure Unit}
    (faultFree : c.FaultFree) (h : c.execute t = (r, c₁)) : WritesNodes c c₁ := by
  cases t.call with
  | idle notReplace idle =>
    rw [execute_idle c notReplace idle] at h
    cases h
    exact ⟨_, _, rfl⟩
  | reboot n node =>
    rw [execute_reboot c node] at h
    cases h
    cases result : (c.nodes.replace n.requestReboot).1 with
    | error f => exact ⟨_, _, Collection.replace_error faultFree.nodes result⟩
    | ok b =>
      obtain ⟨-, stored, -, -, -, eq⟩ := Collection.replace_ok result
      exact ⟨_, _, eq⟩
  | replace plan =>
    rw [execute_replace c plan] at h
    cases h
    exact ⟨_, _, rfl⟩

theorem FaultFree.writesNodes_pass (faultFree : c.FaultFree) (k : Key) (now : Instant) :
    WritesNodes c (c.pass k now).2 := by
  have kept : (c.pass k now).2.FaultFree ∧ WritesNodes c (c.pass k now).2 := by
    refine pass_induction (P := fun c' => c'.FaultFree ∧ WritesNodes c c') ?_
      ⟨faultFree, _, _, rfl⟩
    rintro survey - t - c₁ r c₂ ⟨faultFree, written⟩ result
    exact ⟨faultFree.execute result, written.trans (faultFree.writesNodes_execute result)⟩
  exact kept.2

variable {policy policy' : Policy} {now now' : Instant} {o o' : PassOutcome} {t t' : Target}
  {survey survey' resurvey : List (Target × Verdict)} {k k' : Key}

theorem Selects.target_eq (h : c.Selects policy t.machine) (h' : c.Selects policy' t'.machine)
    (resolved : t = c.targetOf t.machine) (resolved' : t' = c.targetOf t'.machine)
    (same : t.key = t'.key) : t = t' := by
  have stored : c.machines.objects.get? t.key = some t.machine := h.stored
  have stored' : c.machines.objects.get? t'.key = some t'.machine := h'.stored
  rw [same, stored', Option.some.injEq] at stored
  rw [resolved, resolved', stored]

theorem nodeToReboot?_eq_none_of_replaced (sound : c.Sound)
    (surveyed : c.surveyOf policy now = .ok survey)
    (surveyed' : c.surveyOf policy' now' = .ok survey') (mem : t ∈ unhealthyTargets survey')
    (replaced : t.key ∈ replacedKeys (unhealthyTargets survey)) : t.nodeToReboot? = none := by
  obtain ⟨t', mem', plan, same⟩ := mem_replacedKeys.mp replaced
  obtain ⟨resolved, selected⟩ := selects_of_mem_unhealthyTargets sound surveyed' mem
  obtain ⟨resolved', selected'⟩ := selects_of_mem_unhealthyTargets sound surveyed mem'
  rw [selected.target_eq selected' resolved resolved' same.symm]
  exact Target.nodeToReboot?_of_replace plan

theorem Succeeded.effect_trans (first : c.Succeeded policy now o survey c₁)
    (second : c₁.Succeeded policy' now' o' resurvey c₂) (sound : c.Sound) (faultFree : c.FaultFree)
    (sound₁ : c₁.Sound) (surveyed' : c.surveyOf policy' now' = .ok survey') :
    let ks := replacedKeys (unhealthyTargets survey)
    let ns := rebootedNodes (unhealthyTargets survey)
    Effect c (ks ++ (replacedKeys (unhealthyTargets survey')).filter (· ∉ ks))
      (ns ++ (rebootedNodes (unhealthyTargets survey')).filter (· ∉ ns)) c₂ := by
  intro ks ns
  have effect := first.effect sound faultFree.machines
  have faultFree₁ := faultFree.remediates first.remediates
  have effect' := second.effect sound₁ faultFree₁.machines
  have resurveyed := effect.surveyOf sound faultFree faultFree₁ surveyed'
  rw [second.surveyed, Except.ok.injEq] at resurveyed
  have others : ∀ t ∈ unhealthyTargets survey', t.key ∈ ks → t.nodeToReboot? = none :=
    fun t => nodeToReboot?_eq_none_of_replaced sound first.surveyed surveyed'
  rw [resurveyed, unhealthyTargets_surveyAfterReboots, unhealthyTargets_filter_key,
    replacedKeys_afterReboots, replacedKeys_filter_key, rebootedNodes_afterReboots,
    rebootedNodes_filter_key others] at effect'
  exact effect.trans effect'

/-- Passes of two policies commute: if both succeed whichever of them comes first, then it makes no
difference which of them does. -/
theorem passes_commute (reached : c.Reached) (faultFree : c.FaultFree)
    (stored : c.policies.objects.get? k = some policy)
    (stored' : c.policies.objects.get? k' = some policy') {o₁ o₂ o₁' o₂' : PassOutcome}
    (first : (c.pass k now).1.outcome = .ok o₁)
    (second : ((c.pass k now).2.pass k' now').1.outcome = .ok o₂)
    (first' : (c.pass k' now').1.outcome = .ok o₁')
    (second' : ((c.pass k' now').2.pass k now).1.outcome = .ok o₂') :
    ((c.pass k now).2.pass k' now').2 = ((c.pass k' now').2.pass k now).2 := by
  have sound := reached.sound
  have kept : (c.pass k now).2.policies.objects.get? k' = some policy' := by
    rw [(frame_pass sound k now).policies, stored']
  have kept' : (c.pass k' now').2.policies.objects.get? k = some policy := by
    rw [(frame_pass sound k' now').policies, stored]
  obtain ⟨survey, first⟩ := succeeded_of_outcome stored first
  obtain ⟨survey', first'⟩ := succeeded_of_outcome stored' first'
  obtain ⟨resurvey, second⟩ := succeeded_of_outcome kept second
  obtain ⟨resurvey', second'⟩ := succeeded_of_outcome kept' second'
  have keys := nodup_replacedKeys (nodup_unhealthyTargets sound first.surveyed)
  have keys' := nodup_replacedKeys (nodup_unhealthyTargets sound first'.surveyed)
  have nodes := (first.effect sound faultFree.machines).nodup.of_map
  have nodes' := (first'.effect sound faultFree.machines).nodup.of_map
  refine (first.effect_trans second sound faultFree (sound.pass k now) first'.surveyed).eq_of_perm
    (first'.effect_trans second' sound faultFree (sound.pass k' now') first.surveyed)
    (append_filter_perm_comm keys keys') (append_filter_perm_comm nodes nodes') ?_ ?_
  · exact (faultFree.writesNodes_pass k now).trans ((faultFree.pass k now).writesNodes_pass k' now')
  · exact (faultFree.writesNodes_pass k' now').trans
      ((faultFree.pass k' now').writesNodes_pass k now)

/-- Both policies ask the master to reboot, and it is asked once whichever of them comes first. -/
theorem sample_passes_commute :
    (Sample.overlapping.Reached ∧ Sample.overlapping.FaultFree) ∧
    ((Sample.overlapping.pass (key Sample.policy) .epoch).2.pass (key Sample.masters) .epoch).2 =
      ((Sample.overlapping.pass (key Sample.masters) .epoch).2.pass (key Sample.policy)
        .epoch).2 := by
  have reached : Sample.overlapping.Reached := reached_ofLists ..
  have faultFree : Sample.overlapping.FaultFree := faultFree_ofLists ..
  have stored : Sample.overlapping.policies.objects.get? (key Sample.policy) =
      some Sample.policy := by decide
  have stored' : Sample.overlapping.policies.objects.get? (key Sample.masters) =
      some Sample.masters := by decide
  have first : (Sample.overlapping.pass (key Sample.policy) .epoch).1.outcome =
      .ok Sample.outcome := by decide
  have second : ((Sample.overlapping.pass (key Sample.policy) .epoch).2.pass (key Sample.masters)
      .epoch).1.outcome = .ok Sample.mastersOutcome := by decide
  have first' : (Sample.overlapping.pass (key Sample.masters) .epoch).1.outcome =
      .ok Sample.mastersOutcome := by decide
  have second' : ((Sample.overlapping.pass (key Sample.masters) .epoch).2.pass (key Sample.policy)
      .epoch).1.outcome = .ok Sample.outcome := by decide
  exact ⟨⟨reached, faultFree⟩,
    passes_commute reached faultFree stored stored' first second first' second'⟩

end Cluster

end FleetHealth
