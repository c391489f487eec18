import FleetHealth.Proofs.Attempts
import FleetHealth.Proofs.Run

namespace FleetHealth.Cluster

open ClusterObject

inductive FailsEarly (c : Cluster) (k : Key) (now : Instant) (f : Failure) : Prop
  | policyRead : c.policies.get k = .error f → FailsEarly c k now f
  | validation {policy : Policy} : c.policies.get k = .ok (some policy) →
      policy.spec.validate = .error f → FailsEarly c k now f
  | listing {policy : Policy} {selector : Selector} : c.policies.get k = .ok (some policy) →
      policy.spec.validate = .ok () → policy.spec.machineSelector = .ok selector →
      c.machines.list policy.metadata.ns selector = .error f → FailsEarly c k now f
  | nodeLookup {policy : Policy} {selector : Selector} {machines : List Machine}
      {machine : Machine} : c.policies.get k = .ok (some policy) →
      policy.spec.validate = .ok () → policy.spec.machineSelector = .ok selector →
      c.machines.list policy.metadata.ns selector = .ok machines → machine ∈ machines →
      (store.target machine).run c = (.error f, c) → FailsEarly c k now f
  | evaluation {policy : Policy} {targets : List Target} {t : Target} :
      c.policies.get k = .ok (some policy) → policy.spec.validate = .ok () →
      (store.resolve policy).run c = (.ok targets, c) → t ∈ targets →
      t.evaluate policy.spec.rules now = .error f → FailsEarly c k now f

variable {c : Cluster} {k : Key} {now : Instant} {policy : Policy} {f : Failure}

theorem machineSelector_of_validate (h : policy.spec.validate = .ok ()) :
    ∃ selector, policy.spec.machineSelector = .ok selector := by
  obtain ⟨selector, checked, -⟩ := bind_eq_ok h
  exact ⟨selector, checked⟩

theorem evaluateAll_error {rules : List Rule} {ts : List Target}
    (h : Target.evaluateAll rules now ts = .error f) :
    ∃ t ∈ ts, t.evaluate rules now = .error f := by
  obtain ⟨t, mem, failed⟩ := mapM_eq_error h
  refine ⟨t, mem, ?_⟩
  cases bind_eq_error failed with
  | inl failed => exact failed
  | inr later =>
    obtain ⟨v, -, later⟩ := later
    cases later

theorem targetsOf_error {selector : Selector} (checked : policy.spec.machineSelector = .ok selector)
    (h : c.targetsOf policy = .error f) :
    c.machines.list policy.metadata.ns selector = .error f ∨
      ∃ machines, c.machines.list policy.metadata.ns selector = .ok machines ∧
        ∃ machine ∈ machines, (store.target machine).run c = (.error f, c) := by
  rw [targetsOf, checked] at h
  change (c.machines.list policy.metadata.ns selector >>= _) = _ at h
  cases bind_eq_error h with
  | inl unlisted => exact .inl unlisted
  | inr h =>
    obtain ⟨machines, listed, h⟩ := h
    obtain ⟨machine, mem, failed⟩ := mapM_eq_error h
    exact .inr ⟨machines, listed, machine, mem, by rw [run_target, failed]⟩

theorem failsEarly_of_surveyOf (read : c.policies.get k = .ok (some policy))
    (valid : policy.spec.validate = .ok ()) (h : c.surveyOf policy now = .error f) :
    c.FailsEarly k now f := by
  cases bind_eq_error h with
  | inl unresolved =>
    obtain ⟨selector, checked⟩ := machineSelector_of_validate valid
    cases targetsOf_error checked unresolved with
    | inl unlisted => exact .listing read valid checked unlisted
    | inr lookup =>
      obtain ⟨machines, listed, machine, mem, failed⟩ := lookup
      exact .nodeLookup read valid checked listed mem failed
  | inr h =>
    obtain ⟨targets, resolved, h⟩ := h
    obtain ⟨t, mem, failed⟩ := evaluateAll_error h
    exact .evaluation read valid (by rw [run_resolve, resolved]) mem failed

theorem failsEarly_of_survey (h : c.survey k now = .error f) : c.FailsEarly k now f := by
  cases bind_eq_error h with
  | inl unread => exact .policyRead unread
  | inr h =>
    obtain ⟨found, read, h⟩ := h
    cases found with
    | none => cases h
    | some policy =>
      cases bind_eq_error h with
      | inl invalid => exact .validation read invalid
      | inr h =>
        obtain ⟨u, valid, h⟩ := h
        cases bind_eq_error h with
        | inl failed => exact failsEarly_of_surveyOf read valid failed
        | inr h =>
          obtain ⟨survey, -, h⟩ := h
          cases h

inductive Failed (c : Cluster) (k : Key) (now : Instant) (f : Failure) :
    List WriteRequest → Cluster → Prop
  | early : c.FailsEarly k now f → Failed c k now f [] c
  | late {policy : Policy} {targets before after : List Target} {t : Target} {c₁ c' : Cluster} :
      c.policies.objects.get? k = some policy →
      (store.resolve policy).run c = (.ok targets, c) →
      targets.filter (·.isUnhealthyAt policy.spec.rules now) = before ++ t :: after →
      Remediates c before c₁ → c₁.remediate t = (.error f, c') → c'.settled = c₁.settled →
      Failed c k now f ((before ++ [t]).flatMap Target.writes) c'

theorem failed_of_remediateAll {survey : List (Target × Verdict)}
    (surveyed : c.survey k now = .ok (some survey))
    (failure : (c.remediateAll (unhealthyTargets survey)).1.2 = some f) :
    c.Failed k now f (c.attempts (unhealthyTargets survey))
      (c.remediateAll (unhealthyTargets survey)).2 := by
  obtain ⟨before, t, after, c₁, targets, first, failed⟩ := remediateAll_failed failure
  obtain ⟨policy, stored, -, found⟩ := survey_ok surveyed
  have resolved : (store.resolve policy).run c = (.ok (survey.map Prod.fst), c) := by
    rw [run_resolve, targetsOf_of_surveyOf found]
  have unhealthy : (survey.map Prod.fst).filter (·.isUnhealthyAt policy.spec.rules now) =
      before ++ t :: after := by
    rw [← unhealthyTargets_eq_filter fun t v => evaluate_of_mem_surveyOf found, targets]
  have tried := attempts_of_failed first failed after
  rw [← targets] at tried
  rw [tried]
  exact .late stored resolved unhealthy first failed
    (settled_of_execute_error (remediate_error_iff.mp failed))

/-- What a pass that fails leaves behind, told by a store that logs the writes that it tries. -/
theorem pass_failed (h : (c.pass k now).1.outcome = .error f) :
    ∃ log, runLogged (store.logged.pass k now) [] c = (((c.pass k now).1, log), (c.pass k now).2) ∧
      c.Failed k now f log (c.pass k now).2 := by
  refine ⟨_, logged_pass c k now, ?_⟩
  rw [pass_eq] at h ⊢
  rw [List.nil_append]
  rcases surveyed : c.survey k now with f' | _ | survey
  · rw [surveyed] at h
    cases h
    exact .early (failsEarly_of_survey surveyed)
  · rw [surveyed] at h
    cases h
  · rw [surveyed, act, Pass.outcome] at h
    cases failure : (c.remediateAll (unhealthyTargets survey)).1.2 with
    | none => simp [failure] at h
    | some f' =>
      simp only [failure, Except.error.injEq] at h
      rw [h] at failure
      exact failed_of_remediateAll surveyed failure

/-- While machines cannot be deleted, a pass over the sample asks the node of the master to reboot,
and fails at the worker. -/
theorem sample_pass_failed :
    let c := Sample.cluster.setFault (.writes .conflict) .machines
    let f := Failure.conflict "Machine" "worker"
    (c.pass (key Sample.policy) .epoch).1.outcome = .error f ∧
      c.Failed (key Sample.policy) .epoch f
        [.replace Node.kind (key (Sample.node "n0")), .delete Machine.kind (key Sample.worker)]
        (c.pass (key Sample.policy) .epoch).2 := by
  intro c f
  have h : (c.pass (key Sample.policy) .epoch).1.outcome = .error f := by decide
  obtain ⟨log, logged, failed⟩ := pass_failed h
  have tried : (runLogged (store.logged.pass (key Sample.policy) .epoch) [] c).1.2 =
      [.replace Node.kind (key (Sample.node "n0")), .delete Machine.kind (key Sample.worker)] := by
    decide
  rw [logged] at tried
  exact ⟨h, tried ▸ failed⟩

end FleetHealth.Cluster
