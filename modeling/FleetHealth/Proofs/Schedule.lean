import FleetHealth.Proofs.Evaluation
import FleetHealth.Proofs.Run

namespace FleetHealth

open ClusterObject

theorem Duration.foldl_shorter (ds : List Duration) (d : Duration) :
    ds.foldl shorter d ∈ d :: ds ∧ ∀ d' ∈ d :: ds, (ds.foldl shorter d).nanos ≤ d'.nanos := by
  induction ds generalizing d with
  | nil => simp
  | cons first ds ih =>
    obtain ⟨mem, least⟩ := ih (d.shorter first)
    have below := least _ List.mem_cons_self
    rw [nanos_shorter] at below
    refine ⟨?_, ?_⟩
    · rw [List.foldl_cons]
      cases List.mem_cons.mp mem with
      | inl eq =>
        rw [eq, shorter]
        split <;> simp
      | inr mem => simp [mem]
    · intro d' mem
      cases mem with
      | head => exact Nat.le_trans below (Nat.min_le_left _ _)
      | tail _ mem =>
        cases mem with
        | head => exact Nat.le_trans below (Nat.min_le_right _ _)
        | tail _ mem => exact least d' (List.mem_cons_of_mem _ mem)

theorem Duration.shortest?_eq_some {ds : List Duration} {d : Duration} (h : shortest? ds = some d) :
    d ∈ ds ∧ ∀ d' ∈ ds, d.nanos ≤ d'.nanos := by
  cases ds with
  | nil => cases h
  | cons first ds =>
    cases h
    exact foldl_shorter ds first

namespace Verdict

variable {vs : List Verdict} {v : Verdict} {d : Duration}

theorem exists_delay?_of_nextCheck (h : nextCheck vs = some d) : ∃ v ∈ vs, v.delay? = some d :=
  List.mem_filterMap.mp (Duration.shortest?_eq_some h).1

theorem pos_of_nextCheck (h : nextCheck vs = some d) : 0 < d.nanos := by
  obtain ⟨v, -, delay⟩ := exists_delay?_of_nextCheck h
  exact pos_of_delay? delay

theorem nextCheck_le (mem : v ∈ vs) (delay : v.delay? = some d) :
    ∃ next, nextCheck vs = some next ∧ next.nanos ≤ d.nanos := by
  have asked : d ∈ vs.filterMap delay? := List.mem_filterMap.mpr ⟨v, mem, delay⟩
  cases next : nextCheck vs with
  | none =>
    rw [nextCheck] at next
    cases eq : vs.filterMap delay? with
    | nil => simp [eq] at asked
    | cons first ds => simp [eq, Duration.shortest?] at next
  | some d' => exact ⟨d', rfl, (Duration.shortest?_eq_some next).2 d asked⟩

end Verdict

namespace Cluster

variable {c : Cluster} {k : Key} {policy : Policy} {now : Instant} {o : PassOutcome}

/-- A target that is healthy in a pass stays so, as long as nothing but the time changes, until the
next pass is due, or for ever if none is. -/
theorem healthy_until_requeue (stored : c.policies.objects.get? k = some policy)
    (ok : (c.pass k now).1.outcome = .ok o) (nowFlat : now.isLeap = false) :
    (∀ d, o.requeueAfter = some d → 0 < d.nanos) ∧
    ∃ targets, (store.resolve policy).run c = (.ok targets, c) ∧
      ∀ t ∈ targets, t.LeapFree →
        (∃ v, t.evaluate policy.spec.rules now = .ok v ∧ v.isUnhealthy = false) →
        ∀ later : Instant, later.isLeap = false → now.line ≤ later.line →
          (∀ d, o.requeueAfter = some d → later.line < now.line + d.nanos) →
          ∃ v, t.evaluate policy.spec.rules later = .ok v ∧ v.isUnhealthy = false := by
  obtain ⟨survey, succeeded⟩ := succeeded_of_outcome stored ok
  rw [succeeded.requeueAfter]
  refine ⟨fun d => Verdict.pos_of_nextCheck, survey.map Prod.fst, ?_, ?_⟩
  · rw [run_resolve, targetsOf_of_surveyOf succeeded.surveyed]
  · intro t mem flat ⟨v, judged, healthy⟩ later laterFlat le early
    obtain ⟨⟨t, v'⟩, surveyed, rfl⟩ := List.mem_map.mp mem
    rw [evaluate_of_mem_surveyOf succeeded.surveyed surveyed] at judged
    cases judged
    apply Target.healthy_later flat nowFlat laterFlat le
      (evaluate_of_mem_surveyOf succeeded.surveyed surveyed) healthy
    intro d delay
    obtain ⟨next, eq, sooner⟩ :=
      Verdict.nextCheck_le (List.mem_map_of_mem (f := Prod.snd) surveyed) delay
    have intime := early next eq
    omega

def Sample.waitingOutcome : PassOutcome where
  requeueAfter := some (.ofSeconds 500)
  targets := 1
  unhealthy := 0
  remediations := []

/-- A hundred seconds after its last update the machine has another five hundred to get a node,
and not a nanosecond more. -/
theorem sample_healthy_until_requeue :
    (Sample.expiring.policies.objects.get? (key Sample.policy) = some Sample.policy ∧
      (Sample.expiring.pass (key Sample.policy) ⟨100, 0, by decide⟩).1.outcome =
        .ok Sample.waitingOutcome ∧
      Instant.isLeap ⟨100, 0, by decide⟩ = false) ∧
    (∀ d, Sample.waitingOutcome.requeueAfter = some d → 0 < d.nanos) ∧
    (∃ v, (Sample.expiring.targetOf Sample.waiting).evaluate [] ⟨599, 999999999, by decide⟩ = .ok v ∧
      v.isUnhealthy = false) ∧
    ∃ v, (Sample.expiring.targetOf Sample.waiting).evaluate [] ⟨600, 0, by decide⟩ = .ok v ∧
      v.isUnhealthy = true := by
  have stored : Sample.expiring.policies.objects.get? (key Sample.policy) = some Sample.policy := by
    decide
  have ok : (Sample.expiring.pass (key Sample.policy) ⟨100, 0, by decide⟩).1.outcome =
      .ok Sample.waitingOutcome := by decide
  have flat : Instant.isLeap ⟨100, 0, by decide⟩ = false := rfl
  obtain ⟨pos, targets, resolved, stay⟩ := healthy_until_requeue stored ok flat
  refine ⟨⟨stored, ok, flat⟩, pos, ?_, _, rfl, rfl⟩
  have all : Sample.expiring.targetsOf Sample.policy =
      .ok [Sample.expiring.targetOf Sample.waiting] := by decide
  rw [run_resolve, all] at resolved
  cases resolved
  have known : (Sample.expiring.targetOf Sample.waiting).LeapFree := by
    constructor
    · intro since updated
      cases updated
      rfl
    · intro n present
      cases present
  refine stay _ List.mem_cons_self known ⟨_, rfl, rfl⟩ _ rfl (by decide) ?_
  intro d eq
  cases eq
  decide

end Cluster

end FleetHealth
