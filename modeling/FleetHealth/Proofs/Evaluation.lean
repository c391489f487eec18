import FleetHealth.Health.Evaluation
import FleetHealth.Proofs.Except

namespace FleetHealth

open ClusterObject

namespace Instant

/-- The place of an instant on the line of nanoseconds, if it is no leap second. -/
def line (t : Instant) : Int := t.seconds * nanosPerSecond + t.nanos

variable {now later since : Instant}

theorem nanos_elapsedSince_of_not_leap (h : now.isLeap = false) (h' : since.isLeap = false) :
    (now.elapsedSince since).nanos = (now.line - since.line).toNat := by
  rw [nanos_elapsedSince, nanosSince_of_not_leap h h', line, line]

theorem nanos_elapsedSince_le (nowFlat : now.isLeap = false) (laterFlat : later.isLeap = false)
    (sinceFlat : since.isLeap = false) (le : now.line ≤ later.line) :
    (later.elapsedSince since).nanos ≤
      (now.elapsedSince since).nanos + (later.line - now.line).toNat := by
  rw [nanos_elapsedSince_of_not_leap laterFlat sinceFlat,
    nanos_elapsedSince_of_not_leap nowFlat sinceFlat]
  omega

end Instant

namespace Duration

variable {delay : Option Duration} {d : Duration}

theorem nanos_shorten_le : (delay.elim d (·.shorter d)).nanos ≤ d.nanos := by
  cases delay with
  | none => exact Nat.le_refl _
  | some d' =>
    rw [Option.elim_some, nanos_shorter]
    exact Nat.min_le_right _ _

theorem nanos_shorten_le_of_some {d' : Duration} (h : delay = some d') :
    (delay.elim d (·.shorter d)).nanos ≤ d'.nanos := by
  rw [h, Option.elim_some, nanos_shorter]
  exact Nat.min_le_left _ _

theorem nanos_shorten_pos (pos : ∀ d', delay = some d' → 0 < d'.nanos) (h : 0 < d.nanos) :
    0 < (delay.elim d (·.shorter d)).nanos := by
  cases delay with
  | none => exact h
  | some d' =>
    rw [Option.elim_some, nanos_shorter]
    exact Nat.lt_min.mpr ⟨pos d' rfl, h⟩

end Duration

namespace Verdict

theorem delay?_eq_some_iff {v : Verdict} {d : Duration} :
    v.delay? = some d ↔ v.isUnhealthy = false ∧ v.recheckAfter = d ∧ 0 < d.nanos := by
  simp only [delay?, Option.ite_none_left_eq_some, Option.some.injEq, Bool.or_eq_true,
    decide_eq_true_eq, not_or, Bool.not_eq_true, and_assoc]
  constructor
  · rintro ⟨healthy, nonzero, rfl⟩
    exact ⟨healthy, rfl, Nat.pos_of_ne_zero fun zero => nonzero (Duration.ext zero)⟩
  · rintro ⟨healthy, rfl, pos⟩
    refine ⟨healthy, ?_, rfl⟩
    intro zero
    rw [zero] at pos
    exact Nat.lt_irrefl 0 pos

theorem delay?_pending {d : Duration} (pos : 0 < d.nanos) (cause : PendingCause) :
    (pending d cause).delay? = some d :=
  delay?_eq_some_iff.mpr ⟨rfl, rfl, pos⟩

theorem pos_of_delay? {v : Verdict} {d : Duration} (h : v.delay? = some d) : 0 < d.nanos :=
  (delay?_eq_some_iff.mp h).2.2

def DueWithin (v : Verdict) (nanos : Nat) : Prop := ∃ d, v.delay? = some d ∧ d.nanos ≤ nanos

theorem DueWithin.le {v : Verdict} {nanos nanos' : Nat} (h : v.DueWithin nanos)
    (le : nanos ≤ nanos') : v.DueWithin nanos' := by
  obtain ⟨d, delay, within⟩ := h
  exact ⟨d, delay, Nat.le_trans within le⟩

end Verdict

structure Target.LeapFree (t : Target) : Prop where
  machine : ∀ since, t.machine.lastUpdated? = some since → since.isLeap = false
  node : ∀ n, t.node = .present n → ∀ type condition, n.condition? type = some condition →
    ∀ since, condition.lastTransition = some since → since.isLeap = false

namespace Node

variable {n : Node} {now later : Instant} {rules : List (Rule × Duration)} {delay : Option Duration}

theorem heldFor_eq_some_iff {rule : Rule} {held : Duration} :
    n.heldFor rule now = some held ↔
      ∃ condition, n.condition? rule.conditionType = some condition ∧
        condition.status = rule.status ∧
        held = condition.lastTransition.elim .max now.elapsedSince := by
  simp only [heldFor, bind, Option.bind_eq_some_iff]
  apply exists_congr
  intro condition
  by_cases status : condition.status = rule.status
  · cases since : condition.lastTransition <;> simp [status, eq_comm]
  · simp [status]

theorem isUnhealthy_judge :
    (n.judge now delay rules).isUnhealthy = false ↔
      ∀ rule limit, (rule, limit) ∈ rules → ∀ held, n.heldFor rule now = some held →
        held.nanos < limit.nanos := by
  induction rules generalizing delay with
  | nil => cases delay <;> simp [judge, Verdict.isUnhealthy]
  | cons first rules ih =>
    obtain ⟨rule, limit⟩ := first
    rw [judge]
    cases held : n.heldFor rule now with
    | none =>
      simp only [ih, List.mem_cons, Prod.mk.injEq]
      grind
    | some time =>
      by_cases reached : limit ≤ time
      · simp only [reached, if_true, Verdict.isUnhealthy, Bool.true_eq_false, false_iff]
        intro all
        exact Nat.not_lt.mpr reached (all rule limit List.mem_cons_self time held)
      · simp only [reached, if_false, ih, List.mem_cons, Prod.mk.injEq]
        have short : time.nanos < limit.nanos := Nat.lt_of_not_le reached
        grind

/-- A healthy verdict is due again before any of the rules can be violated. -/
theorem dueWithin_judge (healthy : (n.judge now delay rules).isUnhealthy = false)
    (pos : ∀ d, delay = some d → 0 < d.nanos) :
    (∀ d, delay = some d → (n.judge now delay rules).DueWithin d.nanos) ∧
      ∀ rule limit, (rule, limit) ∈ rules → ∀ held, n.heldFor rule now = some held →
        (n.judge now delay rules).DueWithin (limit.nanos - held.nanos) := by
  induction rules generalizing delay with
  | nil =>
    cases delay with
    | none => simp
    | some d => exact ⟨fun d' eq => ⟨d, Verdict.delay?_pending (pos d rfl) _, by simp_all⟩, by simp⟩
  | cons first rules ih =>
    obtain ⟨rule, limit⟩ := first
    rw [judge] at healthy ⊢
    cases held : n.heldFor rule now with
    | none =>
      simp only [held] at healthy
      obtain ⟨start, rest⟩ := ih healthy pos
      refine ⟨start, ?_⟩
      intro rule' limit' mem held' eq
      cases mem with
      | head => simp [held] at eq
      | tail _ mem => exact rest rule' limit' mem held' eq
    | some time =>
      by_cases reached : limit ≤ time
      · simp [held, reached, Verdict.isUnhealthy] at healthy
      · simp only [held, reached, if_false] at healthy ⊢
        have short : time.nanos < limit.nanos := Nat.lt_of_not_le reached
        have left : 0 < (limit.minus time).nanos := Nat.sub_pos_of_lt short
        -- the rest of the rules starts from a delay that this rule may have made shorter
        have pos := Duration.nanos_shorten_pos pos left
        obtain ⟨start, rest⟩ := ih healthy fun d eq => Option.some.inj eq ▸ pos
        have start := start _ rfl
        refine ⟨fun d eq => start.le (Duration.nanos_shorten_le_of_some eq), ?_⟩
        intro rule' limit' mem held' eq
        cases mem with
        | head =>
          rw [held] at eq
          cases eq
          exact start.le Duration.nanos_shorten_le
        | tail _ mem => exact rest rule' limit' mem held' eq

theorem heldFor_later {rule : Rule} {held : Duration} (nowFlat : now.isLeap = false)
    (laterFlat : later.isLeap = false)
    (sinceFlat : ∀ type condition, n.condition? type = some condition →
      ∀ since, condition.lastTransition = some since → since.isLeap = false)
    (le : now.line ≤ later.line) (h : n.heldFor rule later = some held) :
    ∃ before, n.heldFor rule now = some before ∧
      held.nanos ≤ before.nanos + (later.line - now.line).toNat := by
  obtain ⟨condition, found, status, rfl⟩ := heldFor_eq_some_iff.mp h
  refine ⟨_, heldFor_eq_some_iff.mpr ⟨condition, found, status, rfl⟩, ?_⟩
  cases since : condition.lastTransition with
  | none => exact Nat.le_add_right _ _
  | some t =>
    exact Instant.nanos_elapsedSince_le nowFlat laterFlat (sinceFlat _ condition found t since) le

theorem judge_later (nowFlat : now.isLeap = false) (laterFlat : later.isLeap = false)
    (sinceFlat : ∀ type condition, n.condition? type = some condition →
      ∀ since, condition.lastTransition = some since → since.isLeap = false)
    (le : now.line ≤ later.line) (healthy : (n.judge now none rules).isUnhealthy = false)
    (early : ∀ d, (n.judge now none rules).delay? = some d → later.line < now.line + d.nanos) :
    (n.judge later none rules).isUnhealthy = false := by
  rw [isUnhealthy_judge]
  intro rule limit mem held heldLater
  obtain ⟨before, heldNow, bound⟩ := heldFor_later nowFlat laterFlat sinceFlat le heldLater
  have short := isUnhealthy_judge.mp healthy rule limit mem before heldNow
  obtain ⟨d, delay, within⟩ := (dueWithin_judge healthy nofun).2 rule limit mem before heldNow
  have intime := early d delay
  omega

end Node

theorem Machine.judgeWithoutNode_later {machine : Machine} {now later : Instant}
    (nowFlat : now.isLeap = false) (laterFlat : later.isLeap = false)
    (sinceFlat : ∀ since, machine.lastUpdated? = some since → since.isLeap = false)
    (le : now.line ≤ later.line) (healthy : (machine.judgeWithoutNode now).isUnhealthy = false)
    (early : ∀ d, (machine.judgeWithoutNode now).delay? = some d →
      later.line < now.line + d.nanos) :
    (machine.judgeWithoutNode later).isUnhealthy = false := by
  rw [judgeWithoutNode] at healthy early ⊢
  cases updated : machine.lastUpdated? with
  | none => rfl
  | some since =>
    have grown := Instant.nanos_elapsedSince_le nowFlat laterFlat (sinceFlat since updated) le
    simp only [updated] at healthy early ⊢
    by_cases reached : nodeGracePeriod ≤ now.elapsedSince since
    · simp [reached, Verdict.isUnhealthy] at healthy
    · simp only [reached, if_false] at early
      have short : (now.elapsedSince since).nanos < nodeGracePeriod.nanos :=
        Nat.lt_of_not_le reached
      have left : 0 < (nodeGracePeriod.minus (now.elapsedSince since)).nanos :=
        Nat.sub_pos_of_lt short
      have intime := early _ (Verdict.delay?_pending left _)
      rw [Duration.nanos_minus] at intime
      have waiting : ¬ nodeGracePeriod ≤ later.elapsedSince since := by
        rw [Duration.le_def]
        omega
      simp [waiting, Verdict.isUnhealthy]

namespace Target

variable {t : Target} {rules : List Rule} {now later : Instant} {v : Verdict}

theorem healthy_later (flat : t.LeapFree) (nowFlat : now.isLeap = false)
    (laterFlat : later.isLeap = false) (le : now.line ≤ later.line)
    (judged : t.evaluate rules now = .ok v) (healthy : v.isUnhealthy = false)
    (early : ∀ d, v.delay? = some d → later.line < now.line + d.nanos) :
    ∃ v', t.evaluate rules later = .ok v' ∧ v'.isUnhealthy = false := by
  rw [evaluate] at judged ⊢
  split
  · rename_i failed
    rw [if_pos failed] at judged
    cases judged
    cases healthy
  · rename_i running
    rw [if_neg running] at judged
    cases slot : t.node with
    | missing name =>
      rw [slot] at judged
      cases judged
      cases healthy
    | absent =>
      rw [slot] at judged
      cases judged
      exact ⟨_, rfl, Machine.judgeWithoutNode_later nowFlat laterFlat flat.machine le healthy early⟩
    | present n =>
      rw [slot] at judged
      cases limits : Rule.limits rules with
      | error f =>
        rw [limits] at judged
        cases judged
      | ok limits' =>
        rw [limits] at judged
        cases judged
        exact ⟨_, rfl, Node.judge_later nowFlat laterFlat (flat.node n slot) le healthy early⟩

end Target

end FleetHealth
