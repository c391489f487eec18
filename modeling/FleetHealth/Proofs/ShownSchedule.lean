import FleetHealth.Inspector.Table
import FleetHealth.Proofs.DryRun
import FleetHealth.Proofs.Schedule
import Mathlib.Order.Bounds.Defs

namespace FleetHealth

open ClusterObject

namespace Inspector

theorem recheckCell_eq_dash_iff {seconds : Nat} : recheckCell seconds = "-" ↔ seconds = 0 := by
  constructor
  · intro dash
    by_contra pending
    rw [recheckCell, if_neg pending] at dash
    -- the unit is the last character
    have last := congrArg (fun s => s.toList.getLast?) dash
    simp at last
  · rintro rfl
    rfl

end Inspector

def shownDelays (reports : List TargetReport) : List Nat :=
  (reports.filter fun r => !r.unhealthy).map (·.recheckSeconds)

/-- Reports show when the next pass is due. Delays below a second look like none. -/
structure ShowsDue (reports : List TargetReport) (due : Option Duration) : Prop where
  none_iff : (∀ d, due = some d → 0 < d.seconds) →
    (due = none ↔ ∀ s ∈ shownDelays reports, s = 0)
  least : ∀ d, due = some d → 0 < d.seconds →
    IsLeast {s | s ∈ shownDelays reports ∧ s ≠ 0} d.seconds
  subsecond : ∀ d, due = some d → d.seconds = 0 → 0 < d.nanos ∧ 0 ∈ shownDelays reports

variable {survey : List (Target × Verdict)} {s : Nat} {d : Duration}

theorem mem_shownDelays : s ∈ shownDelays (reportsOn survey) ↔
    ∃ v ∈ survey.map Prod.snd, v.isUnhealthy = false ∧ v.recheckAfter.seconds = s := by
  rw [shownDelays, List.mem_map]
  constructor
  · rintro ⟨r, mem, rfl⟩
    obtain ⟨reported, healthy⟩ := List.mem_filter.mp mem
    obtain ⟨e, surveyed, rfl⟩ := List.mem_map.mp reported
    refine ⟨e.2, List.mem_map_of_mem surveyed, ?_, rfl⟩
    simpa [TargetReport.ofVerdict] using healthy
  · rintro ⟨v, mem, healthy, rfl⟩
    obtain ⟨e, surveyed, rfl⟩ := List.mem_map.mp mem
    refine ⟨.ofVerdict e.1 e.2, List.mem_filter.mpr ⟨List.mem_map_of_mem surveyed, ?_⟩, rfl⟩
    simpa [TargetReport.ofVerdict] using healthy

theorem seconds_mem_shownDelays (due : Verdict.nextCheck (survey.map Prod.snd) = some d) :
    d.seconds ∈ shownDelays (reportsOn survey) := by
  obtain ⟨v, mem, delay⟩ := Verdict.exists_delay?_of_nextCheck due
  obtain ⟨healthy, rfl, -⟩ := Verdict.delay?_eq_some_iff.mp delay
  exact mem_shownDelays.mpr ⟨v, mem, healthy, rfl⟩

theorem due_le_shown (shown : s ∈ shownDelays (reportsOn survey)) (pending : s ≠ 0) :
    ∃ d, Verdict.nextCheck (survey.map Prod.snd) = some d ∧ d.seconds ≤ s := by
  obtain ⟨v, mem, healthy, rfl⟩ := mem_shownDelays.mp shown
  have pos : 0 < v.recheckAfter.nanos := by
    by_contra none
    rw [Nat.not_lt, Nat.le_zero] at none
    exact pending (by rw [Duration.seconds, none, Nat.zero_div])
  obtain ⟨d, due, le⟩ :=
    Verdict.nextCheck_le mem (Verdict.delay?_eq_some_iff.mpr ⟨healthy, rfl, pos⟩)
  exact ⟨d, due, Nat.div_le_div_right le⟩

theorem showsDue_reportsOn (survey : List (Target × Verdict)) :
    ShowsDue (reportsOn survey) (Verdict.nextCheck (survey.map Prod.snd)) where
  none_iff long := by
    constructor
    · intro never s shown
      by_contra pending
      obtain ⟨d, due, -⟩ := due_le_shown shown pending
      rw [never] at due
      cases due
    · intro zeros
      cases due : Verdict.nextCheck (survey.map Prod.snd) with
      | none => rfl
      | some d => exact absurd (zeros _ (seconds_mem_shownDelays due)) (long d due).ne'
  least d due long := by
    refine ⟨⟨seconds_mem_shownDelays due, long.ne'⟩, ?_⟩
    rintro s ⟨shown, pending⟩
    obtain ⟨d', due', le⟩ := due_le_shown shown pending
    cases due.symm.trans due'
    exact le
  subsecond d due short :=
    ⟨Verdict.pos_of_nextCheck due, short ▸ seconds_mem_shownDelays due⟩

namespace Cluster

namespace Sample

/-- Half a second before its time is over. -/
def lastMoment : Instant := ⟨599, 500000000, by decide⟩

end Sample

variable {c : Cluster} {k : Key} {policy : Policy} {now : Instant} {o : PassOutcome}

/-- Where a pass succeeds, the reports of a dry run show when it asks for the next one. -/
theorem dryRun_shows_due (stored : c.policies.objects.get? k = some policy)
    (ok : (c.pass k now).1.outcome = .ok o) :
    ∃ reports, (store.dryRun policy now).run c = (.ok reports, c) ∧
      ShowsDue reports o.requeueAfter ∧
      ∀ r ∈ reports, Inspector.recheckCell r.recheckSeconds = "-" ↔ r.recheckSeconds = 0 := by
  obtain ⟨survey, succeeded⟩ := succeeded_of_outcome stored ok
  refine ⟨reportsOn survey, ?_, ?_, fun _ _ => Inspector.recheckCell_eq_dash_iff⟩
  · rw [run_dryRun, succeeded.surveyed]
    rfl
  · rw [succeeded.requeueAfter]
    exact showsDue_reportsOn survey

/-- The ten minutes of the new machine are the least delay that the sample shows. -/
theorem sample_dryRun_shows_due :
    (Sample.cluster.policies.objects.get? (key Sample.policy) = some Sample.policy ∧
      (Sample.cluster.pass (key Sample.policy) .epoch).1.outcome = .ok Sample.outcome) ∧
    ∃ reports, (store.dryRun Sample.policy .epoch).run Sample.cluster =
        (.ok reports, Sample.cluster) ∧
      IsLeast {s | s ∈ shownDelays reports ∧ s ≠ 0} 600 := by
  have ok : (Sample.cluster.pass (key Sample.policy) .epoch).1.outcome = .ok Sample.outcome := by
    decide
  obtain ⟨reports, dry, due, -⟩ := dryRun_shows_due Sample.stored_policy ok
  exact ⟨⟨Sample.stored_policy, ok⟩, reports, dry, due.least nodeGracePeriod rfl (by decide)⟩

/-- Half a second is left of the ten minutes, which the pass waits for and the dry run shows as
nothing to wait for. -/
theorem lastMoment_not_shown :
    Sample.expiring.FaultFree ∧
      Sample.expiring.policies.objects.get? (key Sample.policy) = some Sample.policy ∧
      (Sample.expiring.pass (key Sample.policy) Sample.lastMoment).1.outcome = .ok {
        requeueAfter := some ⟨500000000, by decide⟩
        targets := 1
        unhealthy := 0
        remediations := [] } ∧
      ∃ reports, (store.dryRun Sample.policy Sample.lastMoment).run Sample.expiring =
          (.ok reports, Sample.expiring) ∧
        shownDelays reports = [0] := by
  have surveyed : Sample.expiring.surveyOf Sample.policy Sample.lastMoment = .ok [
      (Sample.expiring.targetOf Sample.waiting,
        .pending ⟨500000000, by decide⟩ (.awaitingNode "fresh"))] := by
    decide
  have dry := run_dryRun Sample.expiring Sample.policy Sample.lastMoment
  rw [surveyed] at dry
  exact ⟨faultFree_ofLists .., by decide, by decide, _, dry, by decide⟩

end Cluster

end FleetHealth
