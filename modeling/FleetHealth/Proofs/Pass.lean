import FleetHealth.Pass
import FleetHealth.Proofs.Remediation

namespace FleetHealth

open ClusterObject

def unhealthyTargets (survey : List (Target × Verdict)) : List Target :=
  (survey.filter fun e => e.2.isUnhealthy).map Prod.fst

@[simp] theorem unhealthyTargets_nil : unhealthyTargets [] = [] := rfl

theorem unhealthyTargets_cons_unhealthy {t : Target} {v : Verdict} (h : v.isUnhealthy = true)
    (survey : List (Target × Verdict)) :
    unhealthyTargets ((t, v) :: survey) = t :: unhealthyTargets survey := by
  simp [unhealthyTargets, h]

theorem unhealthyTargets_cons_healthy {t : Target} {v : Verdict} (h : v.isUnhealthy = false)
    (survey : List (Target × Verdict)) :
    unhealthyTargets ((t, v) :: survey) = unhealthyTargets survey := by
  simp [unhealthyTargets, h]

@[simp] theorem length_unhealthyTargets (survey : List (Target × Verdict)) :
    (unhealthyTargets survey).length = Pass.unhealthyCount survey := by
  simp [unhealthyTargets, Pass.unhealthyCount]

theorem mem_unhealthyTargets {survey : List (Target × Verdict)} {t : Target} :
    t ∈ unhealthyTargets survey ↔ ∃ v, (t, v) ∈ survey ∧ v.isUnhealthy = true := by
  simp [unhealthyTargets]

theorem unhealthyTargets_sublist (survey : List (Target × Verdict)) :
    (unhealthyTargets survey).Sublist (survey.map Prod.fst) :=
  List.filter_sublist.map Prod.fst

def plannedActions (ts : List Target) : List (Key × RemediationAction) :=
  ts.map fun t => (t.key, t.plan)

theorem evaluateAll_ok {rules : List Rule} {now : Instant} {ts : List Target}
    {survey : List (Target × Verdict)} (h : Target.evaluateAll rules now ts = .ok survey) :
    survey.map Prod.fst = ts ∧ ∀ t v, (t, v) ∈ survey → t.evaluate rules now = .ok v := by
  have judged : List.Forall₂ (fun t e => t.evaluate rules now = .ok e.2 ∧ e.1 = t) ts survey := by
    refine (mapM_eq_ok h).imp ?_
    intro t e ok
    obtain ⟨v, eq, ok⟩ := bind_eq_ok ok
    cases ok
    exact ⟨eq, rfl⟩
  clear h
  induction judged with
  | nil => exact ⟨rfl, by simp⟩
  | cons first _ ih =>
    obtain ⟨eq, rfl⟩ := first
    refine ⟨by simp [ih.1], ?_⟩
    intro t v mem
    cases mem with
    | head => exact eq
    | tail _ mem => exact ih.2 t v mem

theorem evaluateAll_of_evaluate {rules : List Rule} {now : Instant}
    {survey : List (Target × Verdict)} (h : ∀ e ∈ survey, e.1.evaluate rules now = .ok e.2) :
    Target.evaluateAll rules now (survey.map Prod.fst) = .ok survey := by
  apply mapM_of_forall₂
  rw [List.forall₂_map_left_iff, List.forall₂_same]
  intro e mem
  rw [h e mem]
  rfl

def Target.isUnhealthyAt (rules : List Rule) (now : Instant) (t : Target) : Bool :=
  (t.evaluate rules now).toOption.any Verdict.isUnhealthy

theorem Target.isUnhealthyAt_of_evaluate {rules : List Rule} {now : Instant} {t : Target}
    {v : Verdict} (h : t.evaluate rules now = .ok v) :
    t.isUnhealthyAt rules now = v.isUnhealthy := by
  simp [isUnhealthyAt, h, Except.toOption]

theorem unhealthyTargets_eq_filter {rules : List Rule} {now : Instant}
    {survey : List (Target × Verdict)} (h : ∀ t v, (t, v) ∈ survey → t.evaluate rules now = .ok v) :
    unhealthyTargets survey = (survey.map Prod.fst).filter (·.isUnhealthyAt rules now) := by
  rw [unhealthyTargets, List.filter_map]
  apply congrArg (List.map Prod.fst)
  apply List.filter_congr
  rintro ⟨t, v⟩ mem
  exact (Target.isUnhealthyAt_of_evaluate (h t v mem)).symm

namespace Cluster

def pass (c : Cluster) (k : Key) (now : Instant) : Pass × Cluster := (store.pass k now).run c

def surveyOf (c : Cluster) (policy : Policy) (now : Instant) :
    Except Failure (List (Target × Verdict)) := do
  let targets ← c.targetsOf policy
  Target.evaluateAll policy.spec.rules now targets

/-- What a pass finds out before it remediates anything; nothing if there is no such policy. -/
def survey (c : Cluster) (k : Key) (now : Instant) :
    Except Failure (Option (List (Target × Verdict))) := do
  match ← c.policies.get k with
  | none => return none
  | some policy =>
    policy.spec.validate
    return some (← c.surveyOf policy now)

def remediateAll (c : Cluster) :
    List Target → (List (Key × RemediationAction) × Option Failure) × Cluster
  | [] => (([], none), c)
  | t :: ts => match c.execute t with
    | (.error f, c₁) => (([], some f), c₁)
    | (.ok _, c₁) =>
      (((t.key, t.plan) :: (c₁.remediateAll ts).1.1, (c₁.remediateAll ts).1.2),
        (c₁.remediateAll ts).2)

def act (c : Cluster) : Except Failure (Option (List (Target × Verdict))) → Pass × Cluster
  | .error f => (.stopped f, c)
  | .ok none => (.vanished, c)
  | .ok (some survey) =>
    ({ survey := some survey
       remediations := (c.remediateAll (unhealthyTargets survey)).1.1
       failure := (c.remediateAll (unhealthyTargets survey)).1.2 },
      (c.remediateAll (unhealthyTargets survey)).2)

section Remediation

variable {c c₁ : Cluster} {t : Target} {ts : List Target} {f : Failure}

theorem remediateAll_cons_of_ok (h : c.execute t = (.ok (), c₁)) :
    c.remediateAll (t :: ts) = (((t.key, t.plan) :: (c₁.remediateAll ts).1.1,
      (c₁.remediateAll ts).1.2), (c₁.remediateAll ts).2) := by
  rw [remediateAll, h]

theorem remediateAll_cons_of_error (h : c.execute t = (.error f, c₁)) :
    c.remediateAll (t :: ts) = (([], some f), c₁) := by
  rw [remediateAll, h]

end Remediation

theorem run_remediateAll (c : Cluster) (survey : List (Target × Verdict)) :
    (store.remediateAll survey).run c = c.remediateAll (unhealthyTargets survey) := by
  induction survey generalizing c with
  | nil => rfl
  | cons e survey ih =>
    obtain ⟨t, v⟩ := e
    cases healthy : v.isUnhealthy with
    | false =>
      rw [unhealthyTargets_cons_healthy healthy, Store.remediateAll, if_neg (by simp [healthy]), ih]
    | true =>
      have first := remediate_eq c t
      rw [remediate] at first
      rw [unhealthyTargets_cons_unhealthy healthy, Store.remediateAll, if_pos healthy, run_bind,
        first]
      rcases result : c.execute t with ⟨f | u, c₁⟩
      · rw [remediateAll_cons_of_error result]
        rfl
      · rw [remediateAll_cons_of_ok result, ← ih]
        rfl

theorem run_passOf (c : Cluster) (policy : Policy) (now : Instant) :
    (store.passOf policy now).run c = c.act (return some (← c.surveyOf policy now)) := by
  rw [Store.passOf, run_bind, run_resolve, surveyOf]
  cases c.targetsOf policy with
  | error f => rfl
  | ok targets =>
    dsimp only [bind, Except.bind]
    cases Target.evaluateAll policy.spec.rules now targets with
    | error f => rfl
    | ok survey =>
      change StateT.run (store.remediateAll survey >>= _) c = _
      rw [run_bind, run_remediateAll]
      rfl

theorem pass_eq (c : Cluster) (k : Key) (now : Instant) :
    c.pass k now = c.act (c.survey k now) := by
  have read : (store.policies.get k).run c = (c.policies.get k, c) := rfl
  rw [pass, survey, Store.pass, run_bind, read]
  cases c.policies.get k with
  | error f => rfl
  | ok found =>
    cases found with
    | none => rfl
    | some policy =>
      dsimp only [bind, Except.bind]
      cases policy.spec.validate with
      | error f => rfl
      | ok u => exact run_passOf c policy now

/-! The survey -/

theorem survey_ok {c : Cluster} {k : Key} {now : Instant} {survey : List (Target × Verdict)}
    (h : c.survey k now = .ok (some survey)) :
    ∃ policy, c.policies.objects.get? k = some policy ∧ policy.spec.validate = .ok () ∧
      c.surveyOf policy now = .ok survey := by
  obtain ⟨found, read, h⟩ := bind_eq_ok h
  cases found with
  | none => cases h
  | some policy =>
    obtain ⟨u, valid, h⟩ := bind_eq_ok h
    obtain ⟨survey', surveyed, h⟩ := bind_eq_ok h
    cases h
    exact ⟨policy, Collection.get?_of_get_ok read, valid, surveyed⟩

theorem get?_of_survey_none {c : Cluster} {k : Key} {now : Instant}
    (h : c.survey k now = .ok none) : c.policies.objects.get? k = none := by
  obtain ⟨found, read, h⟩ := bind_eq_ok h
  cases found with
  | none => exact Collection.get?_of_get_ok read
  | some policy =>
    obtain ⟨u, -, h⟩ := bind_eq_ok h
    obtain ⟨survey, -, h⟩ := bind_eq_ok h
    cases h

section Survey

variable {c : Cluster} {policy : Policy} {now : Instant} {survey : List (Target × Verdict)}

theorem targetsOf_of_surveyOf (h : c.surveyOf policy now = .ok survey) :
    c.targetsOf policy = .ok (survey.map Prod.fst) := by
  obtain ⟨ts, targets, h⟩ := bind_eq_ok h
  rw [(evaluateAll_ok h).1, targets]

theorem evaluate_of_mem_surveyOf (h : c.surveyOf policy now = .ok survey) {t : Target} {v : Verdict}
    (mem : (t, v) ∈ survey) : t.evaluate policy.spec.rules now = .ok v := by
  obtain ⟨ts, -, h⟩ := bind_eq_ok h
  exact (evaluateAll_ok h).2 t v mem

theorem selects_of_mem_unhealthyTargets (sound : c.Sound) (h : c.surveyOf policy now = .ok survey)
    {t : Target} (mem : t ∈ unhealthyTargets survey) :
    t = c.targetOf t.machine ∧ c.Selects policy t.machine :=
  mem_targetsOf sound (targetsOf_of_surveyOf h) ((unhealthyTargets_sublist survey).subset mem)

theorem nodup_surveyOf (sound : c.Sound) (h : c.surveyOf policy now = .ok survey) :
    (survey.map fun e => e.1.key).Nodup := by
  have nodup := nodup_targetsOf sound (targetsOf_of_surveyOf h)
  rw [List.map_map] at nodup
  exact nodup

theorem nodup_unhealthyTargets (sound : c.Sound) (h : c.surveyOf policy now = .ok survey) :
    ((unhealthyTargets survey).map Target.key).Nodup :=
  (nodup_targetsOf sound (targetsOf_of_surveyOf h)).sublist
    ((unhealthyTargets_sublist survey).map Target.key)

end Survey

/-! Remediation of the unhealthy targets -/

inductive Remediates : Cluster → List Target → Cluster → Prop
  | nil {c : Cluster} : Remediates c [] c
  | cons {c c₁ c' : Cluster} {t : Target} {ts : List Target} :
      c.remediate t = (.ok t.plan, c₁) → Remediates c₁ ts c' → Remediates c (t :: ts) c'

theorem remediateAll_succeeded {ts : List Target} {c : Cluster}
    (h : (c.remediateAll ts).1.2 = none) :
    (c.remediateAll ts).1.1 = plannedActions ts ∧ Remediates c ts (c.remediateAll ts).2 := by
  induction ts generalizing c with
  | nil => exact ⟨rfl, .nil⟩
  | cons t ts ih =>
    rcases result : c.execute t with ⟨f | u, c₁⟩
    · rw [remediateAll_cons_of_error result] at h
      cases h
    · rw [remediateAll_cons_of_ok result] at h ⊢
      obtain ⟨done, rest⟩ := ih h
      exact ⟨congrArg _ done, .cons (remediate_ok_iff.mpr ⟨rfl, result⟩) rest⟩

theorem remediateAll_failed {ts : List Target} {c : Cluster} {f : Failure}
    (h : (c.remediateAll ts).1.2 = some f) :
    ∃ before t after c₁, ts = before ++ t :: after ∧ Remediates c before c₁ ∧
      c₁.remediate t = (.error f, (c.remediateAll ts).2) := by
  induction ts generalizing c with
  | nil => cases h
  | cons t ts ih =>
    rcases result : c.execute t with ⟨f' | u, c₁⟩
    · rw [remediateAll_cons_of_error result] at h ⊢
      cases h
      exact ⟨[], t, ts, c, rfl, .nil, remediate_error_iff.mpr result⟩
    · rw [remediateAll_cons_of_ok result] at h ⊢
      obtain ⟨before, t', after, c₂, targets, first, failed⟩ := ih h
      exact ⟨t :: before, t', after, c₂, congrArg _ targets,
        .cons (remediate_ok_iff.mpr ⟨rfl, result⟩) first, failed⟩

theorem remediateAll_of_error {c c₁ c' : Cluster} {before : List Target} {t : Target} {f : Failure}
    (h : Remediates c before c₁) (failed : c₁.execute t = (.error f, c')) (after : List Target) :
    c.remediateAll (before ++ t :: after) = ((plannedActions before, some f), c') := by
  induction h with
  | nil => exact remediateAll_cons_of_error failed
  | cons first _ ih =>
    rw [List.cons_append, remediateAll_cons_of_ok (remediate_ok_iff.mp first).2, ih failed]
    rfl

/-- A pass that fails after its survey has done what was planned for the unhealthy targets in front
of the one that it fails at. -/
theorem stopped_of_outcome {c : Cluster} {k : Key} {now : Instant} {f : Failure}
    {survey : List (Target × Verdict)} (surveyed : c.survey k now = .ok (some survey))
    (failed : (c.pass k now).1.outcome = .error f) :
    ∃ before t after c₁, unhealthyTargets survey = before ++ t :: after ∧
      Remediates c before c₁ ∧ c₁.remediate t = (.error f, (c.pass k now).2) ∧
      (c.pass k now).1.remediations = plannedActions before := by
  rw [pass_eq, surveyed, act] at failed ⊢
  rw [Pass.outcome] at failed
  cases failure : (c.remediateAll (unhealthyTargets survey)).1.2 with
  | none => simp [failure] at failed
  | some f' =>
    simp only [failure, Except.error.injEq] at failed
    subst failed
    obtain ⟨before, t, after, c₁, targets, first, failed⟩ := remediateAll_failed failure
    refine ⟨before, t, after, c₁, targets, first, failed, ?_⟩
    rw [targets, remediateAll_of_error first (remediate_error_iff.mp failed)]

structure Succeeded (c : Cluster) (policy : Policy) (now : Instant) (o : PassOutcome)
    (survey : List (Target × Verdict)) (c' : Cluster) : Prop where
  surveyed : c.surveyOf policy now = .ok survey
  requeueAfter : o.requeueAfter = Verdict.nextCheck (survey.map Prod.snd)
  targets : o.targets = survey.length
  unhealthy : o.unhealthy = (unhealthyTargets survey).length
  remediations : o.remediations = plannedActions (unhealthyTargets survey)
  remediates : Remediates c (unhealthyTargets survey) c'

theorem succeeded_of_outcome {c : Cluster} {k : Key} {now : Instant} {policy : Policy}
    {o : PassOutcome} (stored : c.policies.objects.get? k = some policy)
    (h : (c.pass k now).1.outcome = .ok o) :
    ∃ survey, c.Succeeded policy now o survey (c.pass k now).2 := by
  rw [pass_eq] at h ⊢
  rcases surveyed : c.survey k now with f | _ | survey
  · rw [surveyed] at h
    cases h
  · rw [get?_of_survey_none surveyed] at stored
    cases stored
  · rw [surveyed, act, Pass.outcome] at h
    cases failure : (c.remediateAll (unhealthyTargets survey)).1.2 with
    | some f => simp [failure] at h
    | none =>
      obtain ⟨done, remediates⟩ := remediateAll_succeeded failure
      obtain ⟨policy', found, -, surveyed⟩ := survey_ok surveyed
      rw [stored] at found
      cases found
      simp only [failure, Option.getD_some, Except.ok.injEq] at h
      refine ⟨survey, surveyed, ?_, ?_, ?_, ?_, remediates⟩
      · rw [← h]
      · rw [← h, Pass.targetCount]
      · rw [← h, length_unhealthyTargets]
      · rw [← h, done]

/-- What holds in front of the remediation of targets, and is kept by that of each, holds after. -/
theorem remediateAll_induction {P : Cluster → Prop} {ts : List Target}
    (step : ∀ t ∈ ts, ∀ {c₁ r c₂}, P c₁ → c₁.execute t = (r, c₂) → P c₂)
    {c : Cluster} (start : P c) : P (c.remediateAll ts).2 := by
  induction ts generalizing c with
  | nil => exact start
  | cons t ts ih =>
    rcases result : c.execute t with ⟨f | u, c₁⟩
    · rw [remediateAll_cons_of_error result]
      exact step t List.mem_cons_self start result
    · rw [remediateAll_cons_of_ok result]
      exact ih (fun t' mem => step t' (List.mem_cons_of_mem t mem))
        (step t List.mem_cons_self start result)

theorem pass_induction {P : Cluster → Prop} {c : Cluster} {k : Key} {now : Instant}
    (step : ∀ survey, c.survey k now = .ok (some survey) → ∀ t ∈ unhealthyTargets survey,
      ∀ {c₁ r c₂}, P c₁ → c₁.execute t = (r, c₂) → P c₂)
    (start : P c) : P (c.pass k now).2 := by
  rw [pass_eq]
  rcases surveyed : c.survey k now with f | _ | survey
  · exact start
  · exact start
  · exact remediateAll_induction (step survey surveyed) start

theorem Sound.pass {c : Cluster} (sound : c.Sound) (k : Key) (now : Instant) :
    (c.pass k now).2.Sound :=
  pass_induction (fun _ _ _ _ => Sound.execute) sound

theorem FaultFree.pass {c : Cluster} (faultFree : c.FaultFree) (k : Key) (now : Instant) :
    (c.pass k now).2.FaultFree :=
  pass_induction (fun _ _ _ _ => FaultFree.execute) faultFree

theorem FaultFree.remediates {c c' : Cluster} {ts : List Target} (h : Remediates c ts c')
    (faultFree : c.FaultFree) : c'.FaultFree := by
  induction h with
  | nil => exact faultFree
  | cons first _ ih => exact ih (faultFree.execute (remediate_ok_iff.mp first).2)

end Cluster

end FleetHealth
