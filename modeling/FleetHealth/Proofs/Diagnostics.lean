import FleetHealth.Http.Diagnostics
import FleetHealth.Proofs.DryRun
import FleetHealth.Proofs.FailureKinds
/-!
Which policies the diagnostics service calls invalid. The controller checks a policy before it looks
at any machine, and so refuses every policy that is not sound. The service only learns of the rules
from the verdicts that depend on them: a policy with a bad timeout passes for a sound one as long as
none of its machines is both at work and on a node that exists.
-/

namespace FleetHealth

open ClusterObject

theorem Rule.limits_cons (r : Rule) (rules : List Rule) :
    limits (r :: rules) = (do
      let limit ← r.limit
      let rest ← limits rules
      pure ((r, limit) :: rest)) := by
  rw [limits, List.mapM_cons]
  cases r.limit <;> rfl

theorem Rule.forM_limit (rules : List Rule) :
    (rules.forM fun r => do let _ ← r.limit) = (limits rules).map fun _ => () := by
  induction rules with
  | nil => rfl
  | cons r rules ih =>
    change ((r.limit >>= fun _ => pure ()) >>= fun _ => rules.forM _) = _
    rw [ih, limits_cons]
    cases r.limit with
    | error f => rfl
    | ok limit => cases limits rules <;> rfl

theorem PolicySpec.validate_error_iff {spec : PolicySpec} {f : Failure} :
    spec.validate = .error f ↔
      spec.machineSelector = .error f ∨
        (∃ selector, spec.machineSelector = .ok selector) ∧ Rule.limits spec.rules = .error f := by
  rw [validate, Rule.forM_limit]
  cases spec.machineSelector with
  | error f' => simp [bind, Except.bind]
  | ok selector =>
    cases Rule.limits spec.rules with
    | error f' => simp [bind, Except.bind, Except.map]
    | ok limits => simp [bind, Except.bind, Except.map]

theorem PolicySpec.isPolicyFault_of_validate {spec : PolicySpec} {f : Failure}
    (invalid : spec.validate = .error f) : f.isPolicyFault = true := by
  cases blamesPolicy_of_validate invalid with
  | selector message => rfl
  | timeout conditionType timeout reason => rfl

namespace Target

/-- Whether the verdict on a target depends on the rules: its machine has not failed, and its node is
there. -/
def isJudged (t : Target) : Bool :=
  !t.machine.phase?.any MachinePhase.isTerminalFailure && t.node.node?.isSome

theorem evaluate_error_iff {rules : List Rule} {now : Instant} {t : Target} {f : Failure} :
    t.evaluate rules now = .error f ↔ t.isJudged = true ∧ Rule.limits rules = .error f := by
  rw [evaluate, isJudged]
  split
  · rename_i failed
    simp [failed]
  · rename_i running
    cases t.node with
    | absent => simp [NodeSlot.node?]
    | missing name => simp [NodeSlot.node?]
    | present n => cases Rule.limits rules <;> simp [running, NodeSlot.node?, Except.map]

theorem evaluateAll_error_iff {rules : List Rule} {now : Instant} {ts : List Target} {f : Failure} :
    evaluateAll rules now ts = .error f ↔
      (∃ t ∈ ts, t.isJudged = true) ∧ Rule.limits rules = .error f := by
  constructor
  · intro h
    obtain ⟨t, mem, failed⟩ := Cluster.evaluateAll_error h
    obtain ⟨judged, unlimited⟩ := evaluate_error_iff.mp failed
    exact ⟨⟨t, mem, judged⟩, unlimited⟩
  · rintro ⟨⟨t, mem, judged⟩, unlimited⟩
    have failed : t.evaluate rules now = .error f := evaluate_error_iff.mpr ⟨judged, unlimited⟩
    cases all : evaluateAll rules now ts with
    | error f' =>
      -- whichever target fails first, it fails for the same rule
      obtain ⟨t', -, failed'⟩ := Cluster.evaluateAll_error all
      rw [(evaluate_error_iff.mp failed').2] at unlimited
      cases unlimited
      rfl
    | ok survey =>
      obtain ⟨targets, verdicts⟩ := evaluateAll_ok all
      rw [← targets] at mem
      obtain ⟨⟨t, v⟩, surveyed, rfl⟩ := List.mem_map.mp mem
      rw [verdicts t v surveyed] at failed
      cases failed

end Target

theorem Http.targetsResponse_of_policyFault {f : Failure} (fault : f.isPolicyFault = true) (k : Key) :
    targetsResponse k (.error f) = failed 422 "invalid_policy" f := by
  rw [targetsResponse, if_pos fault]

namespace Cluster

namespace Sample

def untimedPolicy : Policy :=
  { policy with spec.rules := [{ conditionType := "Ready", status := "False", timeout := "soon" }] }

def untimed (machines : List Machine) : Cluster :=
  .ofLists [untimedPolicy] machines [] [node "n1"]

def running : Machine :=
  { worker with
    metadata.name := some "running"
    status := worker.status.map fun s => { s with phase := some "Running" } }

def targetsPath : List Char := "/api/v1/machinehealthchecks/fleet/all/targets".toList

def invalidTimeout : Failure := .timeout "Ready" "soon" "invalid duration: soon"

end Sample

/-- A dry run of a policy comes to know all that can be wrong with it: there is no valid selector, or
one of the targets is judged by the rules. -/
def ChecksAll (c : Cluster) (policy : Policy) : Prop :=
  (∃ f, policy.spec.machineSelector = .error f) ∨
    ∃ targets, ((store.resolve policy).run c).1 = .ok targets ∧ ∃ t ∈ targets, t.isJudged = true

variable {c : Cluster} {k : Key} {policy : Policy} {now : Instant} {f : Failure}

theorem FaultFree.surveyOf_error_iff (faultFree : c.FaultFree) :
    c.surveyOf policy now = .error f ↔
      policy.spec.validate = .error f ∧ c.ChecksAll policy := by
  rw [PolicySpec.validate_error_iff, ChecksAll, run_resolve, surveyOf]
  cases checked : policy.spec.machineSelector with
  | error f' =>
    have unresolved : c.targetsOf policy = .error f' := by
      rw [Cluster.targetsOf, checked]
      rfl
    simp [unresolved, bind, Except.bind]
  | ok selector =>
    rw [faultFree.targetsOf checked]
    change Target.evaluateAll _ _ _ = _ ↔ _
    rw [Target.evaluateAll_error_iff]
    simp [and_comm]

theorem survey_of_invalid (stored : c.policies.get k = .ok (some policy))
    (invalid : policy.spec.validate = .error f) : c.survey k now = .error f := by
  rw [survey, stored]
  change (policy.spec.validate >>= _) = _
  rw [invalid]
  rfl

theorem outcome_policyFault_iff (stored : c.policies.get k = .ok (some policy)) :
    (c.pass k now).1.outcome = .error f ∧ f.isPolicyFault = true ↔
      policy.spec.validate = .error f := by
  constructor
  · rintro ⟨failed, fault⟩
    have kind := failureKind_of_outcome failed .standard
    generalize c.actAttempts (c.survey k now) = log at kind
    generalize Reaction.toFailure .standard f = reaction at kind
    cases kind with
    | ofPolicy read invalid _ =>
      rw [stored] at read
      cases read
      exact invalid
    | ofRead error => cases fault
    | ofWrite blames _ => cases blames <;> cases fault
  · intro invalid
    refine ⟨?_, PolicySpec.isPolicyFault_of_validate invalid⟩
    rw [pass_eq, survey_of_invalid stored invalid]
    rfl

variable {path : List Char}

theorem run_answer_targets (stored : c.policies.get k = .ok (some policy))
    (route : Http.Route.ofPath? path = some (.targets k)) (ns : Option String) (now : Instant)
    (metrics : Metrics) :
    (Http.answer store ns now metrics "GET" path).run c =
      ((Http.targetsResponse k ((c.surveyOf policy now).map reportsOn), metrics), c) := by
  have read : (store.policies.get k).run c = (.ok (some policy), c) := by
    rw [← stored]
    rfl
  have answered : (Http.targetsAnswer store k now).run c =
      (Http.targetsResponse k ((c.surveyOf policy now).map reportsOn), c) := by
    rw [Http.targetsAnswer, run_bind, read]
    change StateT.run (store.dryRun policy now >>= _) c = _
    rw [run_bind, run_dryRun]
    rfl
  rw [Http.answer, route]
  change StateT.run (Http.targetsAnswer store k now >>= _) c = _
  rw [run_bind, answered]
  rfl

/-- The service calls a stored policy invalid just if it is not sound, as for the controller, and
a dry run checks all of it; if not, the dry run is the answer. -/
theorem targets_answered (faultFree : c.FaultFree)
    (stored : c.policies.objects.get? k = some policy)
    (route : Http.Route.ofPath? path = some (.targets k)) (ns : Option String)
    (now later : Instant) (metrics : Metrics) :
    (∀ f, (c.pass k later).1.outcome = .error f ∧ f.isPolicyFault = true ↔
      policy.spec.validate = .error f) ∧
    ∃ response, (Http.answer store ns now metrics "GET" path).run c = ((response, metrics), c) ∧
      (response.status = 422 ↔
        (∃ f, policy.spec.validate = .error f) ∧ c.ChecksAll policy) ∧
      (∀ f, policy.spec.validate = .error f → response.status = 422 →
        response = Http.failed 422 "invalid_policy" f) ∧
      (response.status ≠ 422 → ∃ reports,
        (store.dryRun policy now).run c = (.ok reports, c) ∧
        response = .json 200 (Http.targetList k reports)) := by
  have read := faultFree.readPolicy stored
  refine ⟨fun f => outcome_policyFault_iff read, _, run_answer_targets read route ns now metrics, ?_⟩
  cases surveyed : c.surveyOf policy now with
  | error f =>
    obtain ⟨invalid, checksAll⟩ := faultFree.surveyOf_error_iff.mp surveyed
    have fault := PolicySpec.isPolicyFault_of_validate invalid
    have response : Http.targetsResponse k ((Except.error f).map reportsOn) =
        Http.failed 422 "invalid_policy" f := Http.targetsResponse_of_policyFault fault k
    rw [response]
    refine ⟨⟨fun _ => ⟨⟨f, invalid⟩, checksAll⟩, fun _ => rfl⟩, ?_, fun other => absurd rfl other⟩
    intro f' invalid' _
    rw [invalid] at invalid'
    cases invalid'
    rfl
  | ok survey =>
    have unchecked : ¬((∃ f, policy.spec.validate = .error f) ∧ c.ChecksAll policy) := by
      rintro ⟨⟨f, invalid⟩, checksAll⟩
      have failed : c.surveyOf policy now = .error f :=
        faultFree.surveyOf_error_iff.mpr ⟨invalid, checksAll⟩
      rw [surveyed] at failed
      cases failed
    have accepted : (Http.targetsResponse k ((Except.ok survey).map reportsOn)).status ≠ 422 := by
      change 200 ≠ 422
      decide
    refine ⟨⟨fun refused => absurd refused accepted, fun checked => absurd checked unchecked⟩,
      fun _ _ refused => absurd refused accepted, fun _ => ⟨reportsOn survey, ?_, rfl⟩⟩
    rw [run_dryRun, surveyed]
    rfl

/-- The worker at work has a node, whose conditions the rules are about. -/
theorem untimed_running_refused :
    let c := Sample.untimed [Sample.worker, Sample.running]
    (c.FaultFree ∧
      c.policies.objects.get? (key Sample.untimedPolicy) = some Sample.untimedPolicy ∧
      Http.Route.ofPath? Sample.targetsPath = some (.targets (key Sample.untimedPolicy))) ∧
    (c.pass (key Sample.untimedPolicy) .epoch).1.outcome = .error Sample.invalidTimeout ∧
    (Http.answer store none .epoch .initial "GET" Sample.targetsPath).run c =
      ((Http.failed 422 "invalid_policy" Sample.invalidTimeout, .initial), c) := by
  intro c
  have faultFree : c.FaultFree := faultFree_ofLists ..
  have stored : c.policies.objects.get? (key Sample.untimedPolicy) =
      some Sample.untimedPolicy := by decide
  have route : Http.Route.ofPath? Sample.targetsPath =
      some (.targets (key Sample.untimedPolicy)) := by decide +kernel
  have invalid : Sample.untimedPolicy.spec.validate = .error Sample.invalidTimeout := by
    decide +kernel
  have checksAll : c.ChecksAll Sample.untimedPolicy :=
    .inr ⟨[c.targetOf Sample.running, c.targetOf Sample.worker], by decide,
      c.targetOf Sample.running, by decide, by decide⟩
  obtain ⟨fault, response, answered, refused, told, -⟩ :=
    targets_answered faultFree stored route none .epoch .epoch .initial
  have failed := told _ invalid (refused.mpr ⟨⟨_, invalid⟩, checksAll⟩)
  exact ⟨⟨faultFree, stored, route⟩, ((fault _).mpr invalid).1, failed ▸ answered⟩

/-- The worker that has failed is to be replaced, says the service, but no pass of the policy gets
so far. -/
theorem untimed_failed_reported :
    let c := Sample.untimed [Sample.worker]
    (c.Reached ∧ c.FaultFree ∧
      c.policies.objects.get? (key Sample.untimedPolicy) = some Sample.untimedPolicy ∧
      Http.Route.ofPath? Sample.targetsPath = some (.targets (key Sample.untimedPolicy))) ∧
    Sample.untimedPolicy.spec.validate = .error Sample.invalidTimeout ∧
    (c.pass (key Sample.untimedPolicy) .epoch).1.outcome = .error Sample.invalidTimeout ∧
    Sample.invalidTimeout.isPolicyFault = true ∧
    ∃ reports, (Http.answer store none .epoch .initial "GET" Sample.targetsPath).run c =
        ((.json 200 (Http.targetList (key Sample.untimedPolicy) reports), .initial), c) ∧
      reports.map (·.planned) = [("fleet/worker", some "replace")] := by
  intro c
  have reached : c.Reached := reached_ofLists ..
  have faultFree : c.FaultFree := faultFree_ofLists ..
  have route : Http.Route.ofPath? Sample.targetsPath =
      some (.targets (key Sample.untimedPolicy)) := by decide +kernel
  have invalid : Sample.untimedPolicy.spec.validate = .error Sample.invalidTimeout := by
    decide +kernel
  have read : c.policies.get (key Sample.untimedPolicy) = .ok (some Sample.untimedPolicy) := by
    decide
  have found : c.surveyOf Sample.untimedPolicy .epoch =
      .ok [(c.targetOf Sample.worker, .unhealthy (.failedPhase "worker"))] := by decide
  obtain ⟨failed, fault⟩ := (outcome_policyFault_iff read).mpr invalid
  refine ⟨⟨reached, faultFree, by decide, route⟩, invalid, failed, fault,
    reportsOn [(c.targetOf Sample.worker, .unhealthy (.failedPhase "worker"))], ?_, by decide⟩
  rw [run_answer_targets read route, found]
  rfl

end Cluster

end FleetHealth
