import FleetHealth.Proofs.Schedule
import FleetHealth.Proofs.Success
/-!
Passes that are repeated at once. After a pass that succeeded, the machines that it deleted are no
targets any more; the other targets are what they were, but for nodes that have been asked to
reboot. A second pass finds the same verdicts and plans on them, and has nothing left to write.
-/

namespace FleetHealth

open ClusterObject

namespace NodeSlot

def afterReboots (ns : List Node) : NodeSlot → NodeSlot
  | present n => present (n.afterReboots ns)
  | slot => slot

end NodeSlot

/-! Requests to reboot change no verdict and no plan -/

theorem Node.heldFor_rebooted (n : Node) (rule : Rule) (now : Instant) :
    n.rebooted.heldFor rule now = n.heldFor rule now := rfl

theorem Node.judge_rebooted (n : Node) (now : Instant) (delay : Option Duration)
    (rules : List (Rule × Duration)) :
    n.rebooted.judge now delay rules = n.judge now delay rules := by
  induction rules generalizing delay with
  | nil => cases delay <;> rfl
  | cons first rules ih =>
    obtain ⟨rule, limit⟩ := first
    rw [judge, judge, heldFor_rebooted]
    simp only [ih]
    rfl

namespace Target

def afterReboots (ns : List Node) (t : Target) : Target :=
  { t with node := t.node.afterReboots ns }

@[simp] theorem key_afterReboots (ns : List Node) (t : Target) :
    (t.afterReboots ns).key = t.key := rfl

@[simp] theorem machine_afterReboots (ns : List Node) (t : Target) :
    (t.afterReboots ns).machine = t.machine := rfl

theorem node_afterReboots (ns : List Node) (t : Target) :
    ((t.afterReboots ns).node = t.node ∧ ∀ n, t.node = .present n → n ∉ ns) ∨
      ∃ n ∈ ns, t.node = .present n ∧ (t.afterReboots ns).node = .present n.rebooted := by
  rw [afterReboots]
  cases t.node with
  | absent => exact .inl ⟨rfl, by simp⟩
  | missing name => exact .inl ⟨rfl, by simp⟩
  | present n =>
    rw [NodeSlot.afterReboots]
    by_cases mem : n ∈ ns
    · exact .inr ⟨n, mem, rfl, by rw [Node.afterReboots_of_mem mem]⟩
    · exact .inl ⟨by rw [Node.afterReboots_of_not_mem mem], by simp [mem]⟩

theorem evaluate_afterReboots (ns : List Node) (rules : List Rule) (now : Instant) (t : Target) :
    (t.afterReboots ns).evaluate rules now = t.evaluate rules now := by
  rw [evaluate, evaluate, machine_afterReboots]
  cases t.node_afterReboots ns with
  | inl same => rw [same.1]
  | inr rebooted =>
    obtain ⟨n, -, before, after⟩ := rebooted
    have judged : n.rebooted.judge now none = n.judge now none := by
      funext limits
      exact n.judge_rebooted now none limits
    simp only [before, after, judged]

theorem plan_afterReboots (ns : List Node) (t : Target) : (t.afterReboots ns).plan = t.plan := by
  rw [plan, plan, isControlPlane, isControlPlane, machine_afterReboots]
  cases t.node_afterReboots ns with
  | inl same => rw [same.1]
  | inr rebooted =>
    obtain ⟨n, -, before, after⟩ := rebooted
    rw [before, after]
    rfl

theorem nodeToReboot?_afterReboots (ns : List Node) (t : Target) :
    (t.afterReboots ns).nodeToReboot? = t.nodeToReboot?.filter (· ∉ ns) := by
  ext n
  rw [nodeToReboot?_eq_some_iff, Option.filter_eq_some_iff, nodeToReboot?_eq_some_iff,
    plan_afterReboots, decide_eq_true_iff]
  cases t.node_afterReboots ns with
  | inl same =>
    obtain ⟨same, others⟩ := same
    rw [same]
    constructor
    · rintro ⟨plan, slot, unasked⟩
      exact ⟨⟨plan, slot, unasked⟩, others n slot⟩
    · rintro ⟨node, -⟩
      exact node
  | inr rebooted =>
    obtain ⟨m, mem, before, after⟩ := rebooted
    rw [before, after]
    constructor
    · rintro ⟨-, slot, unasked⟩
      cases slot
      rw [m.hasRebootRequest_rebooted] at unasked
      cases unasked
    · rintro ⟨⟨-, slot, -⟩, new⟩
      cases slot
      exact absurd mem new

end Target

/-! What is left of a survey -/

def survivors (survey : List (Target × Verdict)) : List (Target × Verdict) :=
  survey.filter fun e => !(e.2.isUnhealthy && e.1.plan = .replace)

def surveyAfterReboots (ns : List Node) (survey : List (Target × Verdict)) :
    List (Target × Verdict) :=
  survey.map fun e => (e.1.afterReboots ns, e.2)

theorem mem_replacedKeys_unhealthyTargets {survey : List (Target × Verdict)}
    (nodup : (survey.map fun e => e.1.key).Nodup) {e : Target × Verdict} (mem : e ∈ survey) :
    e.1.key ∈ replacedKeys (unhealthyTargets survey) ↔
      e.2.isUnhealthy = true ∧ e.1.plan = .replace := by
  rw [mem_replacedKeys]
  constructor
  · rintro ⟨t, unhealthy, plan, same⟩
    obtain ⟨v, surveyed, judged⟩ := mem_unhealthyTargets.mp unhealthy
    have eq : (t, v) = e := List.inj_on_of_nodup_map nodup surveyed mem same
    rw [← eq]
    exact ⟨judged, plan⟩
  · rintro ⟨judged, plan⟩
    exact ⟨e.1, mem_unhealthyTargets.mpr ⟨e.2, mem, judged⟩, plan, rfl⟩

theorem survivors_eq_filter {survey : List (Target × Verdict)}
    (nodup : (survey.map fun e => e.1.key).Nodup) :
    survivors survey =
      survey.filter fun e => e.1.key ∉ replacedKeys (unhealthyTargets survey) := by
  apply List.filter_congr
  intro e mem
  simp [mem_replacedKeys_unhealthyTargets nodup mem]

theorem unhealthyTargets_survivors (survey : List (Target × Verdict)) :
    unhealthyTargets (survivors survey) =
      (unhealthyTargets survey).filter fun t => t.plan ≠ .replace := by
  rw [unhealthyTargets, unhealthyTargets, survivors, List.filter_map, List.filter_filter,
    List.filter_filter]
  apply congrArg (List.map Prod.fst)
  apply List.filter_congr
  intro e _
  cases e.2.isUnhealthy <;> simp

theorem unhealthyTargets_surveyAfterReboots (ns : List Node) (survey : List (Target × Verdict)) :
    unhealthyTargets (surveyAfterReboots ns survey) =
      (unhealthyTargets survey).map (Target.afterReboots ns) := by
  rw [unhealthyTargets, unhealthyTargets, surveyAfterReboots, List.filter_map, List.map_map,
    List.map_map]
  rfl

theorem plannedActions_afterReboots (ns : List Node) (ts : List Target) :
    plannedActions (ts.map (Target.afterReboots ns)) = plannedActions ts := by
  rw [plannedActions, plannedActions, List.map_map]
  apply List.map_congr_left
  intro t _
  simp [Target.plan_afterReboots]

theorem length_filter_add_replacedKeys (ts : List Target) :
    (ts.filter fun t => t.plan ≠ .replace).length + (replacedKeys ts).length = ts.length := by
  rw [replacedKeys, List.length_map, Nat.add_comm]
  simpa using (List.length_eq_length_filter_add fun t : Target => decide (t.plan = .replace)).symm

theorem length_survivors (survey : List (Target × Verdict)) :
    (survivors survey).length + (replacedKeys (unhealthyTargets survey)).length =
      survey.length := by
  have lost : (replacedKeys (unhealthyTargets survey)).length =
      (survey.filter fun e => e.2.isUnhealthy && e.1.plan = .replace).length := by
    rw [replacedKeys, unhealthyTargets, List.length_map, List.filter_map, List.length_map,
      List.filter_filter]
    simp only [Function.comp_apply, Bool.and_comm]
  rw [lost, survivors, Nat.add_comm]
  exact (List.length_eq_length_filter_add _).symm

theorem nextCheck_survivors (survey : List (Target × Verdict)) :
    Verdict.nextCheck ((survivors survey).map Prod.snd) =
      Verdict.nextCheck (survey.map Prod.snd) := by
  rw [Verdict.nextCheck, Verdict.nextCheck, survivors, List.filterMap_map, List.filterMap_map,
    List.filterMap_filter]
  apply congrArg
  apply List.filterMap_congr
  intro e _
  cases unhealthy : e.2.isUnhealthy with
  | false => simp
  | true => simp [Verdict.delay?, unhealthy]

namespace Cluster

variable {c c' : Cluster} {k : Key} {policy : Policy} {now : Instant} {o : PassOutcome}
  {ks : List Key} {ns : List Node} {survey : List (Target × Verdict)}

theorem Effect.slotOf (h : Effect c ks ns c') (machine : Machine) :
    c'.slotOf machine = (c.slotOf machine).afterReboots ns := by
  rw [Cluster.slotOf, Cluster.slotOf]
  cases machine.nodeName? with
  | none => rfl
  | some name =>
    dsimp only
    rw [h.nodes]
    cases c.nodes.objects.get? (.clusterWide name) <;> rfl

theorem Effect.targetOf (h : Effect c ks ns c') (machine : Machine) :
    c'.targetOf machine = (c.targetOf machine).afterReboots ns := by
  rw [Cluster.targetOf, h.slotOf]
  rfl

theorem Effect.selected (h : Effect c ks ns c') (sound : c.Sound) (namesp : Option String)
    (selector : Selector) :
    c'.machines.selected namesp selector =
      (c.machines.selected namesp selector).filter fun machine => key machine ∉ ks := by
  rw [h.machines]
  exact sound.machines.selected_without ks namesp selector _

/-- A survey of what is left: the targets whose machines are still there, with the verdicts as
before, and with their nodes as they are by then. -/
theorem Effect.surveyOf (h : Effect c ks ns c') (sound : c.Sound) (faultFree : c.FaultFree)
    (faultFree' : c'.FaultFree) (surveyed : c.surveyOf policy now = .ok survey) :
    c'.surveyOf policy now =
      .ok (surveyAfterReboots ns (survey.filter fun e => e.1.key ∉ ks)) := by
  have targets := targetsOf_of_surveyOf surveyed
  obtain ⟨selector, checked, -⟩ := targetsOf_ok targets
  rw [faultFree.targetsOf checked, Except.ok.injEq] at targets
  have resolved : c'.targetOf = Target.afterReboots ns ∘ c.targetOf := by
    funext machine
    exact h.targetOf machine
  have kept : ((c.machines.selected policy.metadata.ns selector).filter fun machine =>
        key machine ∉ ks).map c.targetOf =
      (survey.filter fun e => e.1.key ∉ ks).map Prod.fst := by
    calc _ = ((c.machines.selected policy.metadata.ns selector).map c.targetOf).filter
          (fun t => t.key ∉ ks) := by
            rw [List.filter_map]
            rfl
      _ = _ := by
            rw [targets, List.filter_map]
            rfl
  -- to list what is left and to resolve it is to resolve what there was and to leave some out
  have left : c'.targetsOf policy =
      .ok ((surveyAfterReboots ns (survey.filter fun e => e.1.key ∉ ks)).map Prod.fst) := by
    rw [faultFree'.targetsOf checked, h.selected sound, resolved, ← List.map_map, kept,
      surveyAfterReboots, List.map_map, List.map_map]
    rfl
  rw [Cluster.surveyOf, left]
  apply evaluateAll_of_evaluate
  intro e mem
  obtain ⟨e, survives, rfl⟩ := List.mem_map.mp mem
  rw [Target.evaluate_afterReboots]
  exact evaluate_of_mem_surveyOf surveyed (List.mem_filter.mp survives).1

/-! A second pass -/

theorem remediateAll_of_idle {ts : List Target}
    (h : ∀ t ∈ ts, t.plan ≠ .replace ∧ t.nodeToReboot? = none) :
    c.remediateAll ts = ((plannedActions ts, none), c) := by
  induction ts with
  | nil => rfl
  | cons t ts ih =>
    obtain ⟨notReplace, idle⟩ := h t List.mem_cons_self
    rw [remediateAll_cons_of_ok (execute_idle c notReplace idle),
      ih fun t' mem => h t' (List.mem_cons_of_mem t mem)]
    rfl

theorem idle_of_mem_afterReboots {ts : List Target} {t : Target}
    (mem : t ∈ (ts.filter fun t => t.plan ≠ .replace).map
      (Target.afterReboots (rebootedNodes ts))) :
    t.plan ≠ .replace ∧ t.nodeToReboot? = none := by
  obtain ⟨t, left, rfl⟩ := List.mem_map.mp mem
  obtain ⟨mem, notReplace⟩ := List.mem_filter.mp left
  rw [Target.plan_afterReboots]
  refine ⟨of_decide_eq_true notReplace, ?_⟩
  -- whatever node the target would ask is among those that have been asked
  rw [Target.nodeToReboot?_afterReboots, Option.filter_eq_none_iff]
  intro n node new
  exact of_decide_eq_true new (mem_rebootedNodes.mpr ⟨t, mem, node⟩)

theorem validate_of_outcome (stored : c.policies.objects.get? k = some policy)
    (ok : (c.pass k now).1.outcome = .ok o) : policy.spec.validate = .ok () := by
  rw [pass_eq] at ok
  rcases surveyed : c.survey k now with f | _ | survey
  · rw [surveyed] at ok
    cases ok
  · rw [get?_of_survey_none surveyed] at stored
    cases stored
  · obtain ⟨policy', found, valid, -⟩ := survey_ok surveyed
    rw [stored] at found
    cases found
    exact valid

theorem Succeeded.pass_again (h : c.Succeeded policy now o survey c') (sound : c.Sound)
    (faultFree : c.FaultFree) (stored : c.policies.objects.get? k = some policy)
    (valid : policy.spec.validate = .ok ()) :
    c'.pass k now =
      ({ survey := some
          (surveyAfterReboots (rebootedNodes (unhealthyTargets survey)) (survivors survey))
         remediations :=
          plannedActions ((unhealthyTargets survey).filter fun t => t.plan ≠ .replace)
         failure := none }, c') := by
  have effect := h.effect sound faultFree.machines
  have faultFree' := faultFree.remediates h.remediates
  have stored' : c'.policies.objects.get? k = some policy := by rw [effect.policies, stored]
  have surveyed := effect.surveyOf sound faultFree faultFree' h.surveyed
  rw [← survivors_eq_filter (nodup_surveyOf sound h.surveyed)] at surveyed
  rw [pass_eq, faultFree'.survey_eq stored' valid surveyed, act,
    unhealthyTargets_surveyAfterReboots, unhealthyTargets_survivors,
    remediateAll_of_idle fun t => idle_of_mem_afterReboots, plannedActions_afterReboots]

/-- A pass that is repeated at once succeeds again and changes nothing any more. Its answer is the
one before without the replacements: as many targets fewer, and the next pass due as before. -/
theorem pass_repeated (reached : c.Reached) (faultFree : c.FaultFree)
    (stored : c.policies.objects.get? k = some policy) (ok : (c.pass k now).1.outcome = .ok o) :
    ∃ o', ((c.pass k now).2.pass k now).1.outcome = .ok o' ∧
      ((c.pass k now).2.pass k now).2 = (c.pass k now).2 ∧
      o'.remediations = o.remediations.filter (·.2 ≠ .replace) ∧
      o'.targets + (o.remediations.filter (·.2 = .replace)).length = o.targets ∧
      o'.unhealthy + (o.remediations.filter (·.2 = .replace)).length = o.unhealthy ∧
      o'.requeueAfter = o.requeueAfter := by
  have valid := validate_of_outcome stored ok
  obtain ⟨survey, succeeded⟩ := succeeded_of_outcome stored ok
  have replaced : (o.remediations.filter (·.2 = .replace)).length =
      (replacedKeys (unhealthyTargets survey)).length := by
    rw [succeeded.remediations, plannedActions, List.filter_map, List.length_map, replacedKeys,
      List.length_map]
    rfl
  rw [succeeded.pass_again reached.sound faultFree stored valid, replaced]
  refine ⟨_, rfl, rfl, ?_, ?_, ?_, ?_⟩
  · rw [succeeded.remediations, plannedActions, plannedActions, List.filter_map]
    rfl
  · change (surveyAfterReboots _ (survivors survey)).length + _ = _
    rw [surveyAfterReboots, List.length_map, length_survivors, succeeded.targets]
  · change Pass.unhealthyCount (surveyAfterReboots _ (survivors survey)) + _ = _
    rw [← length_unhealthyTargets, unhealthyTargets_surveyAfterReboots, List.length_map,
      unhealthyTargets_survivors, length_filter_add_replacedKeys, succeeded.unhealthy]
  · change Verdict.nextCheck ((surveyAfterReboots _ (survivors survey)).map Prod.snd) = _
    rw [surveyAfterReboots, List.map_map, succeeded.requeueAfter]
    exact nextCheck_survivors survey

/-- A second pass over the sample finds the worker gone and the reboot of the master asked for. -/
theorem sample_pass_repeated :
    (Sample.cluster.Reached ∧ Sample.cluster.FaultFree ∧
      Sample.cluster.policies.objects.get? (key Sample.policy) = some Sample.policy ∧
      (Sample.cluster.pass (key Sample.policy) .epoch).1.outcome = .ok Sample.outcome) ∧
    ∃ o, ((Sample.cluster.pass (key Sample.policy) .epoch).2.pass (key Sample.policy)
        .epoch).1.outcome = .ok o ∧
      o.remediations = [(key Sample.master, .reboot)] ∧ o.targets = 2 ∧ o.unhealthy = 1 ∧
      o.requeueAfter = some nodeGracePeriod := by
  have stored : Sample.cluster.policies.objects.get? (key Sample.policy) = some Sample.policy := by
    decide
  have ok : (Sample.cluster.pass (key Sample.policy) .epoch).1.outcome = .ok Sample.outcome := by
    decide
  refine ⟨⟨Sample.reached_cluster, Sample.faultFree_cluster, stored, ok⟩, ?_⟩
  obtain ⟨o, again, -, remediations, targets, unhealthy, requeueAfter⟩ :=
    pass_repeated Sample.reached_cluster Sample.faultFree_cluster stored ok
  refine ⟨o, again, ?_, ?_, ?_, requeueAfter⟩
  · rw [remediations]
    decide
  · exact Nat.add_right_cancel targets
  · exact Nat.add_right_cancel unhealthy

end Cluster

end FleetHealth
