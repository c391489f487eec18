import FleetHealth.Controller.Reaction
import FleetHealth.Proofs.Success
import Mathlib.Algebra.Group.Nat.Defs
import Mathlib.Data.List.Induction
/-!
Metrics of a run of the controller. Whatever the store answers, and whatever has become of it between
two passes, the counters of a policy tell how many of its passes failed and how often each action
was taken for it, and its gauges tell what the last pass found that got as far as the verdicts.
-/

namespace FleetHealth

variable {m : Type → Type} [Monad m]

namespace Store

/-- What a pass finds out before it remediates anything, if it gets so far. -/
def survey (s : Store m) (k : Key) (now : Instant) : m (Option (List (Target × Verdict))) := do
  match ← s.policies.get k with
  | .ok (some policy) =>
    match policy.spec.validate with
    | .ok _ => do
      match ← s.resolve policy with
      | .ok targets => return (Target.evaluateAll policy.spec.rules now targets).toOption
      | .error _ => return none
    | .error _ => return none
  | _ => return none

def answers (s : Store m) : List Target → m (List (Except Failure RemediationAction))
  | [] => return []
  | t :: ts => do
    match ← s.remediate t with
    | .ok action => return .ok action :: (← s.answers ts)
    | .error f => return [.error f]

def passAnswers (s : Store m) (k : Key) (now : Instant) :
    m (List (Except Failure RemediationAction)) := do
  match ← s.survey k now with
  | some survey => s.answers (unhealthyTargets survey)
  | none => return []

end Store

/-- A pass of the controller, with what the store is like by then. -/
structure Turn (σ : Type) where
  state : σ
  policy : Key
  now : Instant

namespace Turn

variable {σ : Type}

def pass (s : Store (StateM σ)) (r : Turn σ) : Pass := ((s.pass r.policy r.now).run r.state).1

def survey? (s : Store (StateM σ)) (r : Turn σ) : Option (List (Target × Verdict)) :=
  ((s.survey r.policy r.now).run r.state).1

def answers (s : Store (StateM σ)) (r : Turn σ) : List (Except Failure RemediationAction) :=
  ((s.passAnswers r.policy r.now).run r.state).1

def actions (s : Store (StateM σ)) (r : Turn σ) : List RemediationAction :=
  (r.answers s).filterMap Except.toOption

def hasFailed (s : Store (StateM σ)) (r : Turn σ) : Bool := !(r.pass s).outcome.isOk

/-- A policy without a namespace goes by the empty one. -/
def ofPolicy (turns : List (Turn σ)) (ns name : String) : List (Turn σ) :=
  turns.filter fun r => r.policy.ns.getD "" = ns ∧ r.policy.name = name

def lastSurvey? (s : Store (StateM σ)) (turns : List (Turn σ)) : Option (List (Target × Verdict)) :=
  (turns.filterMap (·.survey? s)).getLast?

end Turn

namespace Metrics

variable {σ : Type}

def afterTurns (s : Store (StateM σ)) (turns : List (Turn σ)) : Metrics :=
  turns.foldl (fun m r => m.recordReconcile r.policy (r.pass s)) .initial

/-- A gauge shows a count, if there is one, in 64 bits with a sign. -/
structure Shows (gauges : Series) (labels : List String) (count : Option Nat) : Prop where
  wrapped : gauges.get? labels = count.map fun n : Nat => Int.bmod n (2 ^ 64)
  exact_of_lt : ∀ n, count = some n → n < 2 ^ 63 → gauges.get? labels = some (n : Int)

/-- What metrics say under a namespace and the name of a policy, of which these are the turns. -/
structure Account (s : Store (StateM σ)) (turns : List (Turn σ)) (ns name : String)
    (m : Metrics) : Prop where
  errors : m.reconcileErrors.count [ns, name] = turns.countP (·.hasFailed s)
  reboots : m.remediations.count [ns, name, "reboot"] = (turns.flatMap (·.actions s)).count .reboot
  replacements :
    m.remediations.count [ns, name, "replace"] = (turns.flatMap (·.actions s)).count .replace
  skips : m.remediations.count [ns, name, "skip"] =
    (turns.flatMap (·.actions s)).countP (· matches .skip _)
  noOthers : ∀ action ∉ ["reboot", "replace", "skip"], m.remediations.count [ns, name, action] = 0
  targets : Shows m.targets [ns, name] ((Turn.lastSurvey? s turns).map List.length)
  unhealthyTargets : Shows m.unhealthyTargets [ns, name]
    ((Turn.lastSurvey? s turns).map fun survey => survey.countP (·.2.isUnhealthy))

end Metrics

/-! Recording -/

namespace Series

theorem count_increment (s : Series) (labels labels' : List String) :
    (s.increment labels).count labels' = s.count labels' + if labels' = labels then 1 else 0 := by
  by_cases same : labels' = labels
  · subst same
    simp [increment, set, count]
  · simp [increment, set, count, Table.get?_insert, Std.LawfulEqCmp.compare_eq_iff_eq, same]

theorem count_foldl_increment (s : Series) (all : List (List String)) (labels : List String) :
    (all.foldl increment s).count labels = s.count labels + all.count labels := by
  induction all generalizing s with
  | nil => simp
  | cons first all ih =>
    rw [List.foldl_cons, ih, count_increment, List.count_cons]
    by_cases same : first = labels
    · simp [same]
      omega
    · simp [same, Ne.symm same]

theorem get?_set (s : Series) (labels labels' : List String) (value : Int) :
    (s.set labels value).get? labels' = if labels' = labels then some value else s.get? labels' := by
  simp [set, Table.get?_insert, Std.LawfulEqCmp.compare_eq_iff_eq]

end Series

namespace RemediationAction

theorem label_beq_reboot (action : RemediationAction) :
    (action.label == "reboot") = (action == reboot) := by
  cases action <;> rfl

theorem label_beq_replace (action : RemediationAction) :
    (action.label == "replace") = (action == replace) := by
  cases action <;> rfl

theorem label_beq_skip (action : RemediationAction) :
    (action.label == "skip") = (action matches skip _) := by
  cases action <;> rfl

end RemediationAction

namespace Metrics

theorem gauge_of_lt {n : Nat} (h : n < 2 ^ 63) : gauge n = n := by
  rw [gauge, Text.wordLimit, Int.bmod_eq_of_le]
  · omega
  · omega

theorem recordReconcile_eq (m : Metrics) (k : Key) (p : Pass) :
    m.recordReconcile k p = { m with
      targets := p.survey.elim m.targets fun survey =>
        m.targets.set (policyLabels k) (gauge (Pass.targetCount survey))
      unhealthyTargets := p.survey.elim m.unhealthyTargets fun survey =>
        m.unhealthyTargets.set (policyLabels k) (gauge (Pass.unhealthyCount survey))
      remediations := ((p.remediations.map Prod.snd).map fun action =>
        policyLabels k ++ [action.label]).foldl Series.increment m.remediations
      reconcileErrors := if p.failure.isSome then m.reconcileErrors.increment (policyLabels k)
        else m.reconcileErrors } := by
  -- remediations are counted one after the other, and nothing else changes with them
  have folded : ∀ (rs : List (Key × RemediationAction)) (m : Metrics),
      rs.foldl (fun m r => m.recordRemediation k r.2.label) m = { m with
        remediations := ((rs.map Prod.snd).map fun action => policyLabels k ++ [action.label]).foldl
          Series.increment m.remediations } := by
    intro rs
    induction rs with
    | nil => intro m; rfl
    | cons r rs ih => intro m; exact ih _
  rw [recordReconcile, record, folded]
  cases p.survey <;> cases p.failure <;> rfl

end Metrics

/-! Passes over any store -/

namespace Store

variable {σ : Type} (s : Store (StateM σ))

theorem run_remediateAll (survey : List (Target × Verdict)) (x : σ) :
    (((s.remediateAll survey).run x).1.1).map Prod.snd =
      (((s.answers (unhealthyTargets survey)).run x).1).filterMap Except.toOption := by
  induction survey generalizing x with
  | nil => rfl
  | cons e survey ih =>
    obtain ⟨t, v⟩ := e
    cases healthy : v.isUnhealthy with
    | false =>
      rw [unhealthyTargets_cons_healthy healthy, remediateAll, if_neg (by simp [healthy]), ih]
    | true =>
      rw [unhealthyTargets_cons_unhealthy healthy, remediateAll, if_pos healthy, answers, run_bind,
        run_bind]
      rcases (s.remediate t).run x with ⟨f | action, x'⟩
      · rfl
      · exact congrArg (action :: ·) (ih x')
        -- the rest runs on from the state that this remediation has left

theorem run_pass (k : Key) (now : Instant) (x : σ) :
    ((s.pass k now).run x).1.survey = ((s.survey k now).run x).1 ∧
      (((s.pass k now).run x).1.remediations).map Prod.snd =
        (((s.passAnswers k now).run x).1).filterMap Except.toOption := by
  rw [passAnswers, run_bind, pass, survey, run_bind, run_bind]
  rcases (s.policies.get k).run x with ⟨f | _ | policy, x₁⟩
  · exact ⟨rfl, rfl⟩
  · exact ⟨rfl, rfl⟩
  · dsimp only
    cases policy.spec.validate with
    | error f => exact ⟨rfl, rfl⟩
    | ok u =>
      dsimp only
      rw [passOf, run_bind, run_bind]
      rcases (s.resolve policy).run x₁ with ⟨f | targets, x₂⟩
      · exact ⟨rfl, rfl⟩
      · dsimp only
        cases Target.evaluateAll policy.spec.rules now targets with
        | error f => exact ⟨rfl, rfl⟩
        | ok survey => exact ⟨rfl, s.run_remediateAll survey x₂⟩

end Store

namespace Turn

variable {σ : Type} {s : Store (StateM σ)} {r : Turn σ}

theorem survey_pass : (r.pass s).survey = r.survey? s := (s.run_pass r.policy r.now r.state).1

theorem remediations_pass : (r.pass s).remediations.map Prod.snd = r.actions s :=
  (s.run_pass r.policy r.now r.state).2

theorem isSome_failure_pass : (r.pass s).failure.isSome = r.hasFailed s := by
  rw [hasFailed, Pass.outcome]
  cases (r.pass s).failure <;> rfl

theorem policyLabels_eq_iff {k : Key} {ns name : String} :
    Metrics.policyLabels k = [ns, name] ↔ k.ns.getD "" = ns ∧ k.name = name := by
  simp [Metrics.policyLabels, Key.nsText]

theorem ofPolicy_concat_of_eq {ns name : String} (turns : List (Turn σ))
    (own : Metrics.policyLabels r.policy = [ns, name]) :
    ofPolicy (turns ++ [r]) ns name = ofPolicy turns ns name ++ [r] := by
  simp [ofPolicy, policyLabels_eq_iff.mp own]

theorem ofPolicy_concat_of_ne {ns name : String} (turns : List (Turn σ))
    (other : Metrics.policyLabels r.policy ≠ [ns, name]) :
    ofPolicy (turns ++ [r]) ns name = ofPolicy turns ns name := by
  rw [ne_eq, policyLabels_eq_iff] at other
  simp [ofPolicy, other]

theorem lastSurvey?_concat (turns : List (Turn σ)) :
    lastSurvey? s (turns ++ [r]) = (r.survey? s).or (lastSurvey? s turns) := by
  cases surveyed : r.survey? s <;> simp [lastSurvey?, surveyed]

end Turn

namespace Metrics

variable {σ : Type} {s : Store (StateM σ)} {turns : List (Turn σ)} {r : Turn σ}
  {labels : List String} {ns name action : String} {m : Metrics} {gauges : Series}
  {count : Option Nat}

/-! Gauges -/

theorem shows_of_get? (h : gauges.get? labels = count.map gauge) : Shows gauges labels count where
  wrapped := h
  exact_of_lt n eq lt := by rw [h, eq, Option.map_some, gauge_of_lt lt]

/-- A gauge that a pass sets if it comes to a survey shows the last one that there is. -/
theorem Shows.set {surveys survey : Option (List (Target × Verdict))}
    {size : List (Target × Verdict) → Nat} (h : Shows gauges labels (surveys.map size)) :
    Shows (survey.elim gauges fun found => gauges.set labels (gauge (size found))) labels
      ((survey.or surveys).map size) := by
  cases survey with
  | none => exact h
  | some found => exact shows_of_get? (by simp [Series.get?_set])

theorem Shows.set_of_ne {labels' : List String} {survey : Option (List (Target × Verdict))}
    {size : List (Target × Verdict) → Nat} (h : Shows gauges labels count)
    (other : labels' ≠ labels) :
    Shows (survey.elim gauges fun found => gauges.set labels' (gauge (size found))) labels
      count := by
  cases survey with
  | none => exact h
  | some found =>
    apply shows_of_get?
    rw [Option.elim_some, Series.get?_set, if_neg (Ne.symm other)]
    exact h.wrapped

theorem unhealthyCount_eq : Pass.unhealthyCount = fun survey => survey.countP (·.2.isUnhealthy) := by
  funext survey
  exact List.countP_eq_length_filter.symm

/-! Remediations -/

theorem count_labelled (policy labels : List String) (actions : List RemediationAction)
    (action : String) :
    (actions.map fun a => policy ++ [a.label]).count (labels ++ [action]) =
      if policy = labels then actions.countP (·.label == action) else 0 := by
  induction actions with
  | nil => simp
  | cons a actions ih =>
    rw [List.map_cons, List.count_cons, ih, List.countP_cons]
    by_cases own : policy = labels
    · simp [own]
    · have other : policy ++ [a.label] ≠ labels ++ [action] :=
        fun eq => own (List.append_inj' eq rfl).1
      rw [if_neg own, if_neg own, beq_false_of_ne other]
      rfl

theorem remediations_own (own : policyLabels r.policy = [ns, name]) :
    (m.recordReconcile r.policy (r.pass s)).remediations.count [ns, name, action] =
      m.remediations.count [ns, name, action] + (r.actions s).countP (·.label == action) := by
  have labelled := count_labelled [ns, name] [ns, name] (r.actions s) action
  rw [if_pos rfl] at labelled
  rw [recordReconcile_eq, own, Turn.remediations_pass]
  dsimp only
  rw [Series.count_foldl_increment, ← labelled]
  rfl

theorem remediations_other (other : policyLabels r.policy ≠ [ns, name]) :
    (m.recordReconcile r.policy (r.pass s)).remediations.count [ns, name, action] =
      m.remediations.count [ns, name, action] := by
  have labelled : ((r.actions s).map fun a => policyLabels r.policy ++ [a.label]).count
      [ns, name, action] = 0 :=
    (count_labelled (policyLabels r.policy) [ns, name] (r.actions s) action).trans (if_neg other)
  rw [recordReconcile_eq, Turn.remediations_pass]
  dsimp only
  rw [Series.count_foldl_increment, labelled]
  exact Int.add_zero _

/-! The account -/

theorem account_initial : Account s [] ns name .initial where
  errors := rfl
  reboots := rfl
  replacements := rfl
  skips := rfl
  noOthers _ _ := rfl
  targets := shows_of_get? rfl
  unhealthyTargets := shows_of_get? rfl

theorem Account.own (h : Account s turns ns name m) (own : policyLabels r.policy = [ns, name]) :
    Account s (turns ++ [r]) ns name (m.recordReconcile r.policy (r.pass s)) where
  errors := by
    rw [recordReconcile_eq, own, Turn.isSome_failure_pass]
    cases failed : r.hasFailed s
    · simp [failed, h.errors]
    · simp [failed, h.errors, Series.count_increment]
  reboots := by
    rw [remediations_own own, h.reboots]
    simp [List.count, RemediationAction.label_beq_reboot]
  replacements := by
    rw [remediations_own own, h.replacements]
    simp [List.count, RemediationAction.label_beq_replace]
  skips := by
    rw [remediations_own own, h.skips]
    simp [RemediationAction.label_beq_skip]
  noOthers action unknown := by
    have unlabelled : ∀ a : RemediationAction, a.label ≠ action := by
      rintro (reason | _ | _) rfl <;> simp [RemediationAction.label] at unknown
    rw [remediations_own own, h.noOthers action unknown]
    simp [unlabelled]
  targets := by
    rw [recordReconcile_eq, own, Turn.survey_pass, Turn.lastSurvey?_concat]
    exact h.targets.set
  unhealthyTargets := by
    rw [recordReconcile_eq, own, Turn.survey_pass, Turn.lastSurvey?_concat, unhealthyCount_eq]
    exact h.unhealthyTargets.set

theorem Account.other (h : Account s turns ns name m) (other : policyLabels r.policy ≠ [ns, name]) :
    Account s turns ns name (m.recordReconcile r.policy (r.pass s)) where
  errors := by
    rw [recordReconcile_eq]
    cases failed : (r.pass s).failure.isSome
    · simp [h.errors]
    · simp [h.errors, Series.count_increment, Ne.symm other]
  reboots := by rw [remediations_other other, h.reboots]
  replacements := by rw [remediations_other other, h.replacements]
  skips := by rw [remediations_other other, h.skips]
  noOthers action unknown := by rw [remediations_other other, h.noOthers action unknown]
  targets := by
    rw [recordReconcile_eq]
    exact h.targets.set_of_ne other
  unhealthyTargets := by
    rw [recordReconcile_eq]
    exact h.unhealthyTargets.set_of_ne other

/-- After any turns of any policies, over a store that may be like anything at each of them, the
metrics account for the turns of each policy, and for no others. -/
theorem afterTurns_account (s : Store (StateM σ)) (turns : List (Turn σ)) (ns name : String) :
    Account s (Turn.ofPolicy turns ns name) ns name (afterTurns s turns) := by
  -- turns come at the end, as the metrics are folded
  induction turns using List.reverseRecOn with
  | nil => exact account_initial
  | append_singleton turns r ih =>
    rw [afterTurns, List.foldl_concat]
    by_cases own : policyLabels r.policy = [ns, name]
    · rw [Turn.ofPolicy_concat_of_eq turns own]
      exact ih.own own
    · rw [Turn.ofPolicy_concat_of_ne turns own]
      exact ih.other own

section Sample

open ClusterObject Cluster.Sample

def sampleTurns : List (Turn Cluster) :=
  let restricted := { cluster with policies := .ofList [masters] }
  [⟨cluster, key policy, .epoch⟩, ⟨restricted, key masters, .epoch⟩, ⟨twins, key policy, .epoch⟩,
    ⟨twins.setFault .down .machines, key policy, .epoch⟩, ⟨restricted, key policy, .epoch⟩]

def sampleMetrics : Metrics := afterTurns Cluster.store sampleTurns

/-- The third pass fails at the second master, with one reboot done and two machines found; the
fourth cannot list the machines, and the policy of the fifth is gone. -/
theorem sampleTurns_account :
    (sampleMetrics.reconcileErrors.count ["fleet", "all"] = 2 ∧
      sampleMetrics.remediations.count ["fleet", "all", "reboot"] = 2 ∧
      sampleMetrics.remediations.count ["fleet", "all", "replace"] = 1 ∧
      sampleMetrics.remediations.count ["fleet", "all", "skip"] = 0 ∧
      sampleMetrics.targets.get? ["fleet", "all"] = some 2 ∧
      sampleMetrics.unhealthyTargets.get? ["fleet", "all"] = some 2) ∧
    sampleMetrics.reconcileErrors.count ["fleet", "masters"] = 0 ∧
      sampleMetrics.remediations.count ["fleet", "masters", "reboot"] = 1 ∧
      sampleMetrics.targets.get? ["fleet", "masters"] = some 1 := by
  have workers := afterTurns_account Cluster.store sampleTurns "fleet" "all"
  have masters := afterTurns_account Cluster.store sampleTurns "fleet" "masters"
  refine ⟨⟨?_, ?_, ?_, ?_, ?_, ?_⟩, ?_, ?_, ?_⟩
  · exact workers.errors.trans (by decide)
  · exact workers.reboots.trans (by decide)
  · exact workers.replacements.trans (by decide)
  · exact workers.skips.trans (by decide)
  · exact workers.targets.exact_of_lt 2 (by decide) (by decide)
  · exact workers.unhealthyTargets.exact_of_lt 2 (by decide) (by decide)
  · exact masters.errors.trans (by decide)
  · exact masters.reboots.trans (by decide)
  · exact masters.targets.exact_of_lt 1 (by decide) (by decide)

end Sample

end Metrics

end FleetHealth
