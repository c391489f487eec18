import FleetHealth.Controller.Reaction
import FleetHealth.Proofs.FailedPass
import FleetHealth.Proofs.Success

namespace FleetHealth

open ClusterObject

namespace Failure

inductive BlamesPolicy : Failure → Prop
  | selector (message : String) : BlamesPolicy (.selector message)
  | timeout (conditionType timeout reason : String) :
      BlamesPolicy (.timeout conditionType timeout reason)

inductive BlamesWrite : Failure → Prop
  | conflict (kind name : String) : BlamesWrite (.conflict kind name)
  | remediation (message : String) : BlamesWrite (.remediation message)

theorem blamesWrite_ofStep (step subject : String) (f : Failure) :
    (ofStep step subject f).BlamesWrite := by
  cases f with
  | conflict kind name => exact .conflict kind name
  | _ => exact .remediation _

end Failure

namespace Reaction

variable (delays : RetryDelays)

theorem toFailure_of_blamesPolicy {f : Failure} (h : f.BlamesPolicy) :
    toFailure delays f = .awaitChange := by
  cases h with
  | selector message => rfl
  | timeout conditionType timeout reason => rfl

theorem toFailure_of_blamesWrite {f : Failure} (h : f.BlamesWrite) :
    toFailure delays f = .requeue delays.retry := by
  cases h with
  | conflict kind name => rfl
  | remediation message => rfl

end Reaction

theorem PolicySpec.blamesPolicy_of_machineSelector {spec : PolicySpec} {f : Failure}
    (h : spec.machineSelector = .error f) : f.BlamesPolicy := by
  obtain ⟨fault, -, rfl⟩ := mapError_eq_error h
  exact .selector _

theorem Rule.blamesPolicy_of_limit {r : Rule} {f : Failure} (h : r.limit = .error f) :
    f.BlamesPolicy := by
  obtain ⟨fault, -, rfl⟩ := mapError_eq_error h
  exact .timeout _ _ _

theorem PolicySpec.blamesPolicy_of_validate {spec : PolicySpec} {f : Failure}
    (h : spec.validate = .error f) : f.BlamesPolicy := by
  cases bind_eq_error h with
  | inl selector => exact blamesPolicy_of_machineSelector selector
  | inr rules =>
    obtain ⟨selector, -, rules⟩ := rules
    obtain ⟨r, -, failed⟩ := forM_eq_error rules
    cases bind_eq_error failed with
    | inl limit => exact r.blamesPolicy_of_limit limit
    | inr later =>
      obtain ⟨limit, -, later⟩ := later
      cases later

namespace Cluster

inductive FailureKind (c : Cluster) (k : Key) (delays : RetryDelays) :
    Failure → List WriteRequest → Reaction → Prop
  | ofPolicy {policy : Policy} {f : Failure} : c.policies.get k = .ok (some policy) →
      policy.spec.validate = .error f → f.BlamesPolicy → FailureKind c k delays f [] .awaitChange
  | ofRead (error : ApiError) : FailureKind c k delays (.api error) [] (.requeue delays.retry)
  | ofWrite {f : Failure} {log : List WriteRequest} : f.BlamesWrite → log ≠ [] →
      FailureKind c k delays f log (.requeue delays.retry)

variable {c c' : Cluster} {k : Key} {now : Instant} {t : Target} {f : Failure}

theorem blamesWrite_of_execute (h : c.execute t = (.error f, c')) :
    f.BlamesWrite ∧ t.writes ≠ [] := by
  cases t.call with
  | idle notReplace idle =>
    rw [execute_idle c notReplace idle] at h
    cases h
  | reboot n node =>
    have plan := Target.plan_ne_replace_of_node node
    refine ⟨?_, by simp [Target.writes, plan, node]⟩
    rw [execute_reboot c node] at h
    cases result : (c.nodes.replace n.requestReboot).1 with
    | ok b => simp [result] at h
    | error f' =>
      rw [result] at h
      cases h
      exact Failure.blamesWrite_ofStep _ _ f'
  | replace plan =>
    refine ⟨?_, by simp [Target.writes, plan]⟩
    rw [execute_replace c plan] at h
    cases result : (c.machines.delete t.key).1 with
    | ok u => simp [result] at h
    | error f' =>
      rw [result] at h
      have failed := (Prod.mk.inj h).1
      split at failed
      · cases failed
      · cases failed
      · cases failed
        exact Failure.blamesWrite_ofStep _ _ _

theorem failureKind_of_failsEarly (h : c.FailsEarly k now f) (delays : RetryDelays) :
    c.FailureKind k delays f [] (Reaction.toFailure delays f) := by
  have ofRead : f = Collection.unavailable →
      c.FailureKind k delays f [] (Reaction.toFailure delays f) := by
    rintro rfl
    exact .ofRead _
  cases h with
  | policyRead failed => exact ofRead (Collection.get_error failed)
  | validation read invalid =>
    have blames := PolicySpec.blamesPolicy_of_validate invalid
    rw [Reaction.toFailure_of_blamesPolicy delays blames]
    exact .ofPolicy read invalid blames
  | listing _ _ _ failed => exact ofRead (Collection.list_error failed)
  | nodeLookup _ _ _ _ _ failed =>
    rw [run_target] at failed
    exact ofRead (readTarget_error (Prod.mk.inj failed).1)
  | evaluation _ valid _ _ failed =>
    obtain ⟨limits, limited⟩ := exists_limits_of_validate valid
    obtain ⟨v, judged⟩ := Target.exists_evaluate limited now _
    rw [judged] at failed
    cases failed

theorem failureKind_of_outcome (failed : (c.pass k now).1.outcome = .error f)
    (delays : RetryDelays) :
    c.FailureKind k delays f (c.actAttempts (c.survey k now)) (Reaction.toFailure delays f) := by
  rcases surveyed : c.survey k now with f' | _ | survey
  · rw [pass_eq, surveyed] at failed
    cases failed
    exact failureKind_of_failsEarly (failsEarly_of_survey surveyed) delays
  · rw [pass_eq, surveyed] at failed
    cases failed
  · obtain ⟨before, t, after, c₁, unhealthy, first, failed, -⟩ := stopped_of_outcome surveyed failed
    obtain ⟨blames, tried⟩ := blamesWrite_of_execute (remediate_error_iff.mp failed)
    change c.FailureKind k delays f (c.attempts (unhealthyTargets survey)) _
    rw [unhealthy, attempts_of_failed first failed after,
      Reaction.toFailure_of_blamesWrite delays blames]
    refine .ofWrite blames ?_
    simp [tried]

/-- Rules that are sound judge all targets, and every failure of a pass is one of these kinds, as a
store that logs the writes that it tries tells. -/
theorem pass_failure_classified (c : Cluster) (k : Key) (now : Instant) (delays : RetryDelays) :
    (∀ spec : PolicySpec, spec.validate = .ok () → ∀ targets,
      ∃ survey, Target.evaluateAll spec.rules now targets = .ok survey) ∧
    ∀ f, (c.pass k now).1.outcome = .error f →
      ∃ log, runLogged (store.logged.pass k now) [] c =
          (((c.pass k now).1, log), (c.pass k now).2) ∧
        c.FailureKind k delays f log (Reaction.toFailure delays f) := by
  refine ⟨fun spec valid => exists_evaluateAll_of_validate valid now, ?_⟩
  intro f failed
  exact ⟨_, logged_pass c k now, failureKind_of_outcome failed delays⟩

/-- A node that is not found is no machine that is gone: the failure is one of remediation, and is
tried again. -/
theorem sample_pass_failure_classified :
    let c := Sample.cluster.setFault (.writes .notFound) .nodes
    let f := Failure.remediation
      "requesting reboot of node n0: Resource not found: Node/n0 in namespace "
    (Sample.policy.spec.validate = .ok () ∧
      (c.pass (key Sample.policy) .epoch).1.outcome = .error f) ∧
    (∃ survey, Target.evaluateAll Sample.policy.spec.rules .epoch
      [c.targetOf Sample.master, c.targetOf Sample.worker] = .ok survey) ∧
    c.FailureKind (key Sample.policy) .standard f
      [.replace Node.kind (key (Sample.node "n0"))] (.requeue RetryDelays.standard.retry) := by
  intro c f
  have valid := Sample.validate_policy
  have h : (c.pass (key Sample.policy) .epoch).1.outcome = .error f := by decide
  obtain ⟨judged, classified⟩ :=
    pass_failure_classified c (key Sample.policy) .epoch RetryDelays.standard
  obtain ⟨log, logged, kind⟩ := classified f h
  have tried : (runLogged (store.logged.pass (key Sample.policy) .epoch) [] c).1.2 =
      [.replace Node.kind (key (Sample.node "n0"))] := by decide
  rw [logged] at tried
  exact ⟨⟨valid, h⟩, judged _ valid _, tried ▸ kind⟩

end Cluster

end FleetHealth
