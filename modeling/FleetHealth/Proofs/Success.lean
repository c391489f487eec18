import FleetHealth.Proofs.Effect
import FleetHealth.Proofs.FailedPass
import Mathlib.Data.List.Duplicate

namespace FleetHealth

open ClusterObject

theorem exists_limits_of_validate {spec : PolicySpec} (valid : spec.validate = .ok ()) :
    ∃ limits, Rule.limits spec.rules = .ok limits := by
  obtain ⟨selector, -, valid⟩ := bind_eq_ok valid
  apply exists_mapM_eq_ok
  intro r mem
  obtain ⟨limit, limited, -⟩ := bind_eq_ok (forM_eq_ok_iff.mp valid r mem)
  exact ⟨(r, limit), by rw [limited]; rfl⟩

theorem Target.exists_evaluate {rules : List Rule} {limits : List (Rule × Duration)}
    (limited : Rule.limits rules = .ok limits) (now : Instant) (t : Target) :
    ∃ v, t.evaluate rules now = .ok v := by
  rw [evaluate]
  split
  · exact ⟨_, rfl⟩
  · cases t.node with
    | absent => exact ⟨_, rfl⟩
    | missing name => exact ⟨_, rfl⟩
    | present n => exact ⟨_, by rw [limited]; rfl⟩

theorem exists_evaluateAll_of_validate {spec : PolicySpec} (valid : spec.validate = .ok ())
    (now : Instant) (ts : List Target) :
    ∃ survey, Target.evaluateAll spec.rules now ts = .ok survey := by
  obtain ⟨limits, limited⟩ := exists_limits_of_validate valid
  apply exists_mapM_eq_ok
  intro t _
  obtain ⟨v, judged⟩ := Target.exists_evaluate limited now t
  exact ⟨(t, v), by rw [judged]; rfl⟩

namespace Cluster

def Sample.twin : Machine :=
  failed "twin" "n0" (some (Table.ofList [(Machine.roleLabel, Machine.masterRole)]))

def Sample.twins : Cluster := .ofLists [policy] [master, twin] [] [node "n0"]

variable {c c₁ c' : Cluster} {k : Key} {policy : Policy} {now : Instant}

theorem FaultFree.targetsOf (faultFree : c.FaultFree) {selector : Selector}
    (checked : policy.spec.machineSelector = .ok selector) :
    c.targetsOf policy =
      .ok ((c.machines.selected policy.metadata.ns selector).map c.targetOf) := by
  have listed : c.machines.list policy.metadata.ns selector =
      .ok (c.machines.selected policy.metadata.ns selector) := by
    simp [Collection.list, faultFree.machines]
  have read : ∀ machine, c.readTarget machine = .ok (c.targetOf machine) := by
    simp [readTarget, faultFree.nodes]
  rw [Cluster.targetsOf, checked]
  change (c.machines.list _ _ >>= _) = _
  rw [listed]
  apply mapM_of_forall₂
  rw [List.forall₂_map_right_iff, List.forall₂_same]
  exact fun machine _ => read machine

theorem FaultFree.exists_surveyOf (faultFree : c.FaultFree)
    (valid : policy.spec.validate = .ok ()) (now : Instant) :
    ∃ survey, c.surveyOf policy now = .ok survey := by
  obtain ⟨selector, checked⟩ := machineSelector_of_validate valid
  obtain ⟨survey, judged⟩ := exists_evaluateAll_of_validate valid now
    ((c.machines.selected policy.metadata.ns selector).map c.targetOf)
  refine ⟨survey, ?_⟩
  rw [surveyOf, faultFree.targetsOf checked]
  exact judged

theorem FaultFree.readPolicy (faultFree : c.FaultFree)
    (stored : c.policies.objects.get? k = some policy) :
    c.policies.get k = .ok (some policy) := by
  simp [Collection.get, faultFree.policies, stored]

theorem FaultFree.survey_eq (faultFree : c.FaultFree)
    (stored : c.policies.objects.get? k = some policy) (valid : policy.spec.validate = .ok ())
    {survey : List (Target × Verdict)} (surveyed : c.surveyOf policy now = .ok survey) :
    c.survey k now = .ok (some survey) := by
  rw [Cluster.survey, faultFree.readPolicy stored]
  change (policy.spec.validate >>= _) = _
  rw [valid]
  change (c.surveyOf policy now >>= _) = _
  rw [surveyed]
  rfl

/-- A target that remediation fails at asks for the reboot of a node that a target in front of it
has asked to reboot. -/
theorem FaultFree.asked_of_failed {survey : List (Target × Verdict)} {before after : List Target}
    {t : Target} {f : Failure} (faultFree : c.FaultFree) (sound : c.Sound)
    (surveyed : c.surveyOf policy now = .ok survey)
    (unhealthy : unhealthyTargets survey = before ++ t :: after) (first : Remediates c before c₁)
    (failed : c₁.remediate t = (.error f, c')) :
    ∃ n ∈ rebootedNodes before, t.nodeToReboot? = some n ∧
      f = .conflict Node.kind.kind (shownName n) := by
  have effect := effect_of_sublist sound faultFree.machines surveyed
    (unhealthy ▸ List.sublist_append_left before _) first
  have faultFree₁ := faultFree.remediates first
  have resolved : t = c.targetOf t.machine :=
    (selects_of_mem_unhealthyTargets sound surveyed (unhealthy ▸ by simp)).1
  have failed := remediate_error_iff.mp failed
  cases t.call with
  | idle notReplace idle =>
    rw [execute_idle c₁ notReplace idle] at failed
    cases failed
  | replace plan =>
    rw [execute_replace c₁ plan] at failed
    -- a machine that is gone counts as deleted, and nothing else can be wrong
    cases deletion : (c₁.machines.delete t.key).1 with
    | ok u =>
      rw [deletion] at failed
      cases failed
    | error f' =>
      rw [deletion, Collection.delete_error_eq faultFree₁.machines deletion] at failed
      cases failed
  | reboot n node =>
    obtain ⟨-, slot, unasked⟩ := Target.nodeToReboot?_eq_some_iff.mp node
    have stored : c.nodes.objects.get? (key n) = some n := by
      rw [resolved] at slot
      exact get?_of_slotOf sound slot
    have found : c₁.nodes.objects.get? (key n) = some (n.afterReboots (rebootedNodes before)) := by
      rw [effect.nodes, stored, Option.map_some]
    by_cases asked : n ∈ rebootedNodes before
    · rw [Node.afterReboots_of_mem asked] at found
      have stale := Node.isStale_rebooted (sound.nodes.versioned stored)
      rw [faultFree₁.execute_stale node found stale] at failed
      cases failed
      exact ⟨n, asked, node, rfl⟩
    · rw [Node.afterReboots_of_not_mem asked] at found
      rw [faultFree₁.execute_fresh node found n.isStale_requestReboot] at failed
      cases failed

theorem FaultFree.duplicate_of_failed {survey : List (Target × Verdict)} {f : Failure}
    (faultFree : c.FaultFree) (sound : c.Sound) (surveyed : c.survey k now = .ok (some survey))
    (failed : (c.pass k now).1.outcome = .error f) :
    ∃ n, (rebootedNodes (unhealthyTargets survey)).Duplicate n ∧
      f = .conflict Node.kind.kind (shownName n) := by
  obtain ⟨policy, -, -, found⟩ := survey_ok surveyed
  obtain ⟨before, t, after, c₁, unhealthy, first, failed, -⟩ := stopped_of_outcome surveyed failed
  obtain ⟨n, asked, again, eq⟩ := faultFree.asked_of_failed sound found unhealthy first failed
  refine ⟨n, ?_, eq⟩
  rw [unhealthy, rebootedNodes_append, rebootedNodes_cons_of_some again,
    List.duplicate_iff_sublist]
  exact (List.singleton_sublist.mpr asked).append (List.singleton_sublist.mpr List.mem_cons_self)

theorem FaultFree.stopped_of_outcome {survey : List (Target × Verdict)} {f : Failure}
    (faultFree : c.FaultFree) (sound : c.Sound)
    (stored : c.policies.objects.get? k = some policy) (valid : policy.spec.validate = .ok ())
    (surveyed : c.surveyOf policy now = .ok survey)
    (failed : (c.pass k now).1.outcome = .error f) :
    ∃ before t after, unhealthyTargets survey = before ++ t :: after ∧
      Remediates c before (c.pass k now).2 ∧
      Effect c (replacedKeys before) (rebootedNodes before) (c.pass k now).2 ∧
      (c.pass k now).2.remediate t = (.error f, (c.pass k now).2) ∧
      (c.pass k now).1.remediations = plannedActions before := by
  obtain ⟨before, t, after, c₁, unhealthy, first, failed, done⟩ :=
    Cluster.stopped_of_outcome (faultFree.survey_eq stored valid surveyed) failed
  have same := (faultFree.remediates first).execute_error (remediate_error_iff.mp failed)
  rw [← same] at first
  rw [← same] at failed
  exact ⟨before, t, after, unhealthy, first, effect_of_sublist sound faultFree.machines surveyed
    (unhealthy ▸ List.sublist_append_left before _) first, failed, done⟩

/-- A pass of a sound policy on a cluster without faults succeeds if and only if its unhealthy
targets ask no node to reboot twice, and what it fails with otherwise is a conflict over such a
node. -/
theorem pass_succeeds_iff (reached : c.Reached) (faultFree : c.FaultFree)
    (stored : c.policies.objects.get? k = some policy) (valid : policy.spec.validate = .ok ())
    (now : Instant) :
    ∃ targets, (store.resolve policy).run c = (.ok targets, c) ∧
      let asked := rebootedNodes (targets.filter (·.isUnhealthyAt policy.spec.rules now))
      ((∃ o, (c.pass k now).1.outcome = .ok o) ↔ asked.Nodup) ∧
        ∀ f, (c.pass k now).1.outcome = .error f →
          ∃ n, asked.Duplicate n ∧ f = .conflict Node.kind.kind (shownName n) := by
  obtain ⟨survey, surveyed⟩ := faultFree.exists_surveyOf valid now
  have judged := fun t v => evaluate_of_mem_surveyOf (t := t) (v := v) surveyed
  have failing := fun f => faultFree.duplicate_of_failed (f := f) reached.sound
    (faultFree.survey_eq stored valid surveyed)
  refine ⟨survey.map Prod.fst, by rw [run_resolve, targetsOf_of_surveyOf surveyed], ?_⟩
  rw [← unhealthyTargets_eq_filter judged]
  refine ⟨⟨?_, ?_⟩, failing⟩
  · rintro ⟨o, ok⟩
    obtain ⟨survey', succeeded⟩ := succeeded_of_outcome stored ok
    have same := succeeded.surveyed
    rw [surveyed] at same
    cases same
    exact (succeeded.effect reached.sound faultFree.machines).nodup.of_map _
  · intro nodup
    cases outcome : (c.pass k now).1.outcome with
    | ok o => exact ⟨o, rfl⟩
    | error f =>
      obtain ⟨n, duplicate, -⟩ := failing f outcome
      exact absurd nodup duplicate.not_nodup

/-- The sample asks one node to reboot, and only once, so that its pass succeeds. -/
theorem sample_pass_succeeds :
    (Sample.cluster.Reached ∧ Sample.cluster.FaultFree ∧
      Sample.cluster.policies.objects.get? (key Sample.policy) = some Sample.policy ∧
      Sample.policy.spec.validate = .ok ()) ∧
    ∃ o, (Sample.cluster.pass (key Sample.policy) .epoch).1.outcome = .ok o := by
  have stored : Sample.cluster.policies.objects.get? (key Sample.policy) = some Sample.policy := by
    decide
  have valid : Sample.policy.spec.validate = .ok () := by decide
  refine ⟨⟨Sample.reached_cluster, Sample.faultFree_cluster, stored, valid⟩, ?_⟩
  obtain ⟨targets, resolved, succeeds, -⟩ :=
    pass_succeeds_iff Sample.reached_cluster Sample.faultFree_cluster stored valid .epoch
  have all : Sample.cluster.targetsOf Sample.policy =
      .ok ([Sample.fresh, Sample.master, Sample.worker].map Sample.cluster.targetOf) := by decide
  rw [run_resolve, all] at resolved
  cases resolved
  exact succeeds.mpr (by decide)

/-- Two masters on one node make a pass defeat itself: nobody else writes, nothing is wrong with the
cluster, and yet the second request comes into conflict with the first one. -/
theorem twins_pass_conflicts :
    Sample.twins.Reached ∧ Sample.twins.FaultFree ∧
      Sample.twins.policies.objects.get? (key Sample.policy) = some Sample.policy ∧
      Sample.policy.spec.validate = .ok () ∧
      (Sample.twins.pass (key Sample.policy) .epoch).1.outcome = .error (.conflict "Node" "n0") :=
  ⟨reached_ofLists .., ⟨rfl, rfl, rfl, rfl⟩, by decide, by decide, by decide⟩

end Cluster

end FleetHealth
