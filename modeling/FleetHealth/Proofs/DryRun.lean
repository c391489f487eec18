import FleetHealth.DryRun
import FleetHealth.Proofs.Success

namespace FleetHealth

open ClusterObject

namespace TargetReport

def planned (r : TargetReport) : String × Option String := (r.machine, r.plannedAction)

def On (rules : List Rule) (now : Instant) (t : Target) (r : TargetReport) : Prop :=
  ∃ v, t.evaluate rules now = .ok v ∧ r = .ofVerdict t v

theorem planned_ofVerdict {v : Verdict} (unhealthy : v.isUnhealthy = true) (t : Target) :
    (ofVerdict t v).planned = (t.key.text, some t.plan.text) := by
  simp [planned, ofVerdict, unhealthy]

theorem On.plannedAction_of_healthy {rules : List Rule} {now : Instant} {t : Target}
    {r : TargetReport} (h : On rules now t r) (healthy : r.unhealthy = false) :
    r.plannedAction = none := by
  obtain ⟨v, -, rfl⟩ := h
  have judged : v.isUnhealthy = false := healthy
  simp [ofVerdict, judged]

end TargetReport

def rendered (e : Key × RemediationAction) : String × Option String := (e.1.text, some e.2.text)

def reportsOn (survey : List (Target × Verdict)) : List TargetReport :=
  survey.map fun e => .ofVerdict e.1 e.2

@[simp] theorem length_reportsOn (survey : List (Target × Verdict)) :
    (reportsOn survey).length = survey.length := by
  simp [reportsOn]

theorem filter_reportsOn (survey : List (Target × Verdict)) :
    (reportsOn survey).filter (·.unhealthy) =
      reportsOn (survey.filter fun e => e.2.isUnhealthy) := by
  rw [reportsOn, List.filter_map]
  rfl

theorem map_planned_reportsOn {survey : List (Target × Verdict)}
    (unhealthy : ∀ e ∈ survey, e.2.isUnhealthy = true) :
    (reportsOn survey).map (·.planned) = (plannedActions (survey.map Prod.fst)).map rendered := by
  rw [reportsOn, plannedActions, List.map_map, List.map_map, List.map_map]
  apply List.map_congr_left
  intro e mem
  exact TargetReport.planned_ofVerdict (unhealthy e mem) e.1

theorem forall₂_on {rules : List Rule} {now : Instant} {survey : List (Target × Verdict)}
    (judged : ∀ t v, (t, v) ∈ survey → t.evaluate rules now = .ok v) :
    List.Forall₂ (TargetReport.On rules now) (survey.map Prod.fst) (reportsOn survey) := by
  rw [reportsOn, List.forall₂_map_left_iff, List.forall₂_map_right_iff, List.forall₂_same]
  exact fun e mem => ⟨e.2, judged e.1 e.2 mem, rfl⟩

namespace Cluster

/-- Some targets have been remediated, which has had just the effect of these, and what is left
fails at the next one. -/
structure StoppedAt (c : Cluster) (done : List Target) (t : Target) (f : Failure) (c' : Cluster) :
    Prop where
  remediates : Remediates c done c'
  effect : PassEffect c done c'
  failed : c'.remediate t = (.error f, c')

structure Predicts (c : Cluster) (k : Key) (now : Instant) (rules : List Rule)
    (reports : List TargetReport) : Prop where
  succeeded : ∀ o, (c.pass k now).1.outcome = .ok o →
    o.targets = reports.length ∧ o.unhealthy = (reports.filter (·.unhealthy)).length ∧
      o.remediations.map rendered = (reports.filter (·.unhealthy)).map (·.planned)
  stopped : ∀ f, (c.pass k now).1.outcome = .error f →
    ∃ before r after, reports.filter (·.unhealthy) = before ++ r :: after ∧
      (c.pass k now).1.remediations.map rendered = before.map (·.planned) ∧
      ∃ done t, List.Forall₂ (TargetReport.On rules now) done before ∧
        TargetReport.On rules now t r ∧ c.StoppedAt done t f (c.pass k now).2

variable {c : Cluster} {k : Key} {policy : Policy} {now : Instant}
  {survey : List (Target × Verdict)}

theorem run_dryRun (c : Cluster) (policy : Policy) (now : Instant) :
    (store.dryRun policy now).run c = ((c.surveyOf policy now).map reportsOn, c) := by
  rw [Store.dryRun, run_bind, run_resolve, surveyOf]
  cases c.targetsOf policy with
  | error f => rfl
  | ok targets =>
    dsimp only [bind, Except.bind]
    cases Target.evaluateAll policy.spec.rules now targets with
    | error f => rfl
    | ok survey => rfl

theorem unhealthy_of_mem_filter {e : Target × Verdict}
    (mem : e ∈ survey.filter fun e => e.2.isUnhealthy) : e.2.isUnhealthy = true :=
  (List.mem_filter.mp mem).2

theorem FaultFree.predicts (faultFree : c.FaultFree) (sound : c.Sound)
    (stored : c.policies.objects.get? k = some policy) (valid : policy.spec.validate = .ok ())
    (surveyed : c.surveyOf policy now = .ok survey) :
    c.Predicts k now policy.spec.rules (reportsOn survey) := by
  have judged := fun t v => evaluate_of_mem_surveyOf (t := t) (v := v) surveyed
  constructor
  · intro o ok
    obtain ⟨survey', succeeded⟩ := succeeded_of_outcome stored ok
    have same := succeeded.surveyed
    rw [surveyed] at same
    cases same
    rw [length_reportsOn, filter_reportsOn, length_reportsOn, succeeded.remediations,
      map_planned_reportsOn fun _ => unhealthy_of_mem_filter]
    refine ⟨succeeded.targets, ?_, rfl⟩
    rw [succeeded.unhealthy, length_unhealthyTargets, Pass.unhealthyCount]
  · intro f failed
    obtain ⟨before, t, after, unhealthy, first, effect, failed, done⟩ :=
      faultFree.stopped_of_outcome sound stored valid surveyed failed
    -- the unhealthy targets split as they do because their entries in the survey split so
    obtain ⟨front, rest, split, rfl, tail⟩ := List.map_eq_append_iff.mp unhealthy
    obtain ⟨e, back, rfl, rfl, rfl⟩ := List.map_eq_cons_iff.mp tail
    have found : ∀ e' ∈ front ++ e :: back, e' ∈ survey ∧ e'.2.isUnhealthy = true := by
      intro e' mem
      rw [← split] at mem
      exact List.mem_filter.mp mem
    refine ⟨reportsOn front, .ofVerdict e.1 e.2, reportsOn back, ?_, ?_, front.map Prod.fst, e.1,
      forall₂_on ?_, ⟨e.2, ?_, rfl⟩, ⟨first, effect.passEffect sound, failed⟩⟩
    · rw [filter_reportsOn, split, reportsOn, List.map_append, List.map_cons]
      rfl
    · rw [done, map_planned_reportsOn]
      exact fun e' mem => (found e' (List.mem_append_left _ mem)).2
    · exact fun t v mem => judged t v (found _ (List.mem_append_left _ mem)).1
    · exact judged e.1 e.2 (found e (by simp)).1

/-- A dry run of a sound policy reports on each of its targets, plans nothing for those that are
healthy, and predicts the pass. -/
theorem dryRun_predicts (reached : c.Reached) (faultFree : c.FaultFree)
    (stored : c.policies.objects.get? k = some policy) (valid : policy.spec.validate = .ok ())
    (now : Instant) :
    ∃ targets reports, (store.resolve policy).run c = (.ok targets, c) ∧
      (store.dryRun policy now).run c = (.ok reports, c) ∧
      List.Forall₂ (TargetReport.On policy.spec.rules now) targets reports ∧
      (∀ r ∈ reports, r.unhealthy = false → r.plannedAction = none) ∧
      c.Predicts k now policy.spec.rules reports := by
  obtain ⟨survey, surveyed⟩ := faultFree.exists_surveyOf valid now
  have judged := fun t v => evaluate_of_mem_surveyOf (t := t) (v := v) surveyed
  have each := forall₂_on judged
  refine ⟨survey.map Prod.fst, reportsOn survey, ?_, ?_, each, ?_,
    faultFree.predicts reached.sound stored valid surveyed⟩
  · rw [run_resolve, targetsOf_of_surveyOf surveyed]
  · rw [run_dryRun, surveyed]
    rfl
  · intro r mem healthy
    obtain ⟨e, found, rfl⟩ := List.mem_map.mp mem
    exact TargetReport.On.plannedAction_of_healthy ⟨e.2, judged e.1 e.2 found, rfl⟩ healthy

/-- Two reboots of one node are planned, and the pass stops at the second. -/
theorem twins_dryRun_predicts :
    (Sample.twins.Reached ∧ Sample.twins.FaultFree ∧
      Sample.twins.policies.objects.get? (key Sample.policy) = some Sample.policy ∧
      Sample.policy.spec.validate = .ok ()) ∧
    ∃ reports, (store.dryRun Sample.policy .epoch).run Sample.twins = (.ok reports, Sample.twins) ∧
      reports.map (·.planned) = [("fleet/master", some "reboot"), ("fleet/twin", some "reboot")] ∧
      ∃ before r, reports = before ++ [r] ∧
        ∃ done t, List.Forall₂ (TargetReport.On [] .epoch) done before ∧
          TargetReport.On [] .epoch t r ∧
          Sample.twins.StoppedAt done t (.conflict "Node" "n0")
            (Sample.twins.pass (key Sample.policy) .epoch).2 := by
  have reached : Sample.twins.Reached := reached_ofLists ..
  have faultFree : Sample.twins.FaultFree := faultFree_ofLists ..
  have stored : Sample.twins.policies.objects.get? (key Sample.policy) = some Sample.policy :=
    Sample.stored_policy
  have valid := Sample.validate_policy
  have failed : (Sample.twins.pass (key Sample.policy) .epoch).1.outcome =
      .error (.conflict "Node" "n0") := by decide
  have remediations : (Sample.twins.pass (key Sample.policy) .epoch).1.remediations =
      [(key Sample.master, .reboot)] := by decide
  have found : Sample.twins.surveyOf Sample.policy .epoch = .ok [
      (Sample.twins.targetOf Sample.master, .unhealthy (.failedPhase "master")),
      (Sample.twins.targetOf Sample.twin, .unhealthy (.failedPhase "twin"))] := by decide
  refine ⟨⟨reached, faultFree, stored, valid⟩, ?_⟩
  obtain ⟨targets, reports, -, dry, -, -, predicts⟩ :=
    dryRun_predicts reached faultFree stored valid .epoch
  refine ⟨reports, dry, ?_⟩
  obtain ⟨before, r, after, split, planned, rest⟩ := predicts.stopped _ failed
  rw [run_dryRun, found] at dry
  cases dry
  refine ⟨by decide, before, r, ?_, rest⟩
  rw [filter_reportsOn] at split
  have one : before.length = 1 := by
    simpa [remediations] using (congrArg List.length planned).symm
  have last : after = [] := by
    have count : 2 = (before ++ r :: after).length := congrArg List.length split
    rw [List.length_append, one, List.length_cons] at count
    exact List.length_eq_zero_iff.mp (by omega)
  subst last
  exact split

end Cluster

end FleetHealth
