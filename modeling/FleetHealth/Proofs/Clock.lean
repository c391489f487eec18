import FleetHealth.Proofs.Judgement
/-!
Evaluations of one target at two times, on one line of nanoseconds. What is unhealthy stays so, what
has nothing to wait for stays as it is, and a delay that is counted from the past runs down with the
clock until the target is unhealthy.
-/

namespace FleetHealth

open ClusterObject

namespace Assessment

/-- How an assessment changes over so many nanoseconds. Its delay runs down with them, if all that it
is counted from is past. -/
structure Evolves (past : Prop) (elapsed : Nat) (a a' : Assessment) : Prop where
  unhealthy : a.unhealthy = true → a'.unhealthy = true
  settled : a.unhealthy = false → a.recheckAfter = .zero → a' = a
  early : past → a.unhealthy = false → a.recheckAfter ≠ .zero →
    elapsed < a.recheckAfter.nanos →
      a'.unhealthy = false ∧ a'.recheckAfter.nanos + elapsed = a.recheckAfter.nanos
  due : past → a.unhealthy = false → a.recheckAfter ≠ .zero →
    elapsed = a.recheckAfter.nanos → a'.unhealthy = true

/-- An assessment is made by timers, each of which has been running since some instant and has a
limit. A delay without a timer can be anything. -/
structure MadeBy (timers : Option Instant → Duration → Prop) (now : Instant) (a : Assessment) :
    Prop where
  unhealthy_iff : a.unhealthy = true ↔
    ∃ since limit, timers since limit ∧ limit.nanos ≤ now.held since
  least : a.unhealthy = false → ∀ since limit, timers since limit →
    ∃ held : Nat, now.held since = held ∧ held + a.recheckAfter.nanos ≤ limit.nanos
  exact : a.unhealthy = false → (∃ since limit, timers since limit) →
    ∃ since limit, timers since limit ∧
      ∃ held : Nat, now.held since = held ∧ held + a.recheckAfter.nanos = limit.nanos

end Assessment

namespace Target

inductive Consults (t : Target) (rules : List Rule) (since : Instant) : Prop
  | update (slot : t.node = .absent) (updated : t.machine.lastUpdated? = some since)
  | transition {n rule} (slot : t.node = .present n) (mem : rule ∈ rules)
      (active : n.Active rule (some since))

structure CountsFromPast (t : Target) (rules : List Rule) (now : Instant) : Prop where
  known : t.node = .absent → ∃ since, t.machine.lastUpdated? = some since
  past : ∀ since, t.Consults rules since → since.line ≤ now.line

end Target

/-- Two instants, no leap seconds, with so many nanoseconds between them. -/
structure Instant.Passed (now later : Instant) (elapsed : Nat) : Prop where
  now_flat : now.isLeap = false
  later_flat : later.isLeap = false
  line : later.line = now.line + elapsed

variable {now later : Instant} {elapsed : Nat}

namespace Instant.Passed

variable {since : Option Instant}

theorem held_le (passed : now.Passed later elapsed)
    (flat : ∀ start, since = some start → start.isLeap = false) :
    now.held since ≤ later.held since := by
  cases since with
  | none => exact le_rfl
  | some start =>
    rw [held, held, nanosSince_of_not_leap passed.now_flat (flat start rfl),
      nanosSince_of_not_leap passed.later_flat (flat start rfl), Nat.cast_le]
    have line := passed.line
    rw [Instant.line, Instant.line] at line
    omega

theorem held_later (passed : now.Passed later elapsed)
    (flat : ∀ start, since = some start → start.isLeap = false)
    (past : ∀ start, since = some start → start.line ≤ now.line) :
    later.held since = now.held since + elapsed := by
  cases since with
  | none => rfl
  | some start =>
    rw [held, held, nanosSince_of_not_leap passed.now_flat (flat start rfl),
      nanosSince_of_not_leap passed.later_flat (flat start rfl), ← Nat.cast_add, Nat.cast_inj]
    have line := passed.line
    have past := past start rfl
    rw [Instant.line, Instant.line] at line past
    omega

end Instant.Passed

namespace Assessment

variable {timers : Option Instant → Duration → Prop} {a a' : Assessment} {past past' : Prop}

theorem Evolves.imp (h : a.Evolves past elapsed a') (imp : past' → past) :
    a.Evolves past' elapsed a' where
  unhealthy := h.unhealthy
  settled := h.settled
  early p := h.early (imp p)
  due p := h.due (imp p)

theorem Evolves.of_unhealthy (h : a.unhealthy = true) : a.Evolves past elapsed a where
  unhealthy _ := h
  settled _ _ := rfl
  early _ healthy := by simp [h] at healthy
  due _ healthy := by simp [h] at healthy

theorem MadeBy.unhealthy_later (h : a.MadeBy timers now) (h' : a'.MadeBy timers later)
    (passed : now.Passed later elapsed)
    (flat : ∀ since limit, timers (some since) limit → since.isLeap = false)
    (unhealthy : a.unhealthy = true) : a'.unhealthy = true := by
  obtain ⟨since, limit, timer, reached⟩ := h.unhealthy_iff.mp unhealthy
  have grown : now.held since ≤ later.held since := by
    apply passed.held_le
    rintro start rfl
    exact flat start limit timer
  exact h'.unhealthy_iff.mpr ⟨since, limit, timer, reached.trans grown⟩

/-- The timer that is the first to run out stays the first, and has so much less time left. -/
theorem MadeBy.early (h : a.MadeBy timers now) (h' : a'.MadeBy timers later)
    (gone : ∀ since limit, timers since limit → later.held since = now.held since + elapsed)
    (started : ∃ since limit, timers since limit) (healthy : a.unhealthy = false)
    (early : elapsed < a.recheckAfter.nanos) :
    a'.unhealthy = false ∧ a'.recheckAfter.nanos + elapsed = a.recheckAfter.nanos := by
  have healthy' : a'.unhealthy = false := by
    rw [← Bool.not_eq_true, h'.unhealthy_iff]
    rintro ⟨since, limit, timer, reached⟩
    obtain ⟨held, eq, within⟩ := h.least healthy since limit timer
    rw [gone since limit timer, eq] at reached
    norm_cast at reached
    omega
  refine ⟨healthy', ?_⟩
  -- the timer that is first now, at the later time, and the one that is first then, now
  obtain ⟨since, limit, timer, held, eq, exact⟩ := h.exact healthy started
  obtain ⟨later_held, later_eq, within⟩ := h'.least healthy' since limit timer
  rw [gone since limit timer, eq] at later_eq
  obtain ⟨since', limit', timer', later_held', later_eq', exact'⟩ := h'.exact healthy' started
  obtain ⟨held', eq', within'⟩ := h.least healthy since' limit' timer'
  rw [gone since' limit' timer', eq'] at later_eq'
  norm_cast at later_eq later_eq'
  omega

theorem MadeBy.due (h : a.MadeBy timers now) (h' : a'.MadeBy timers later)
    (gone : ∀ since limit, timers since limit → later.held since = now.held since + elapsed)
    (started : ∃ since limit, timers since limit) (healthy : a.unhealthy = false)
    (due : elapsed = a.recheckAfter.nanos) : a'.unhealthy = true := by
  obtain ⟨since, limit, timer, held, eq, exact⟩ := h.exact healthy started
  apply h'.unhealthy_iff.mpr
  refine ⟨since, limit, timer, ?_⟩
  rw [gone since limit timer, eq]
  norm_cast
  omega

theorem MadeBy.evolves (h : a.MadeBy timers now) (h' : a'.MadeBy timers later)
    (passed : now.Passed later elapsed)
    (flat : ∀ since limit, timers (some since) limit → since.isLeap = false)
    (settled : a.unhealthy = false → a.recheckAfter = .zero → a' = a) :
    a.Evolves ((a.recheckAfter ≠ .zero → ∃ since limit, timers since limit) ∧
      ∀ since limit, timers (some since) limit → since.line ≤ now.line) elapsed a' := by
  have gone : (∀ since limit, timers (some since) limit → since.line ≤ now.line) →
      ∀ since limit, timers since limit → later.held since = now.held since + elapsed := by
    intro past since limit timer
    apply passed.held_later
    · rintro start rfl
      exact flat start limit timer
    · rintro start rfl
      exact past start limit timer
  constructor
  · exact h.unhealthy_later h' passed flat
  · exact settled
  · rintro ⟨started, past⟩ healthy waiting
    exact h.early h' (gone past) (started waiting) healthy
  · rintro ⟨started, past⟩ healthy waiting
    exact h.due h' (gone past) (started waiting) healthy

end Assessment

namespace Node

def timers (n : Node) (rules : List (Rule × Duration)) (since : Option Instant) (limit : Duration) :
    Prop :=
  ∃ rule, (rule, limit) ∈ rules ∧ n.Active rule since

variable {n : Node} {rules : List (Rule × Duration)} {a a' : Assessment}

theorem Assessed.madeBy (h : n.Assessed now rules a) : a.MadeBy (n.timers rules) now := by
  cases h with
  | @expired before rule limit after since split active reached first =>
    have timer : n.timers rules since limit := ⟨rule, by simp [split], active⟩
    exact ⟨by simpa using ⟨since, limit, timer, reached⟩, nofun, nofun⟩
  | @pending rule limit since delay mem active exact pos least =>
    constructor
    · constructor
      · intro unhealthy
        cases unhealthy
      · rintro ⟨since', limit', ⟨rule', mem', active'⟩, reached⟩
        have short := Instant.held_lt_of_add_le pos (least _ mem' since' active')
        exact absurd reached (not_le.mpr short)
    · rintro - since' limit' ⟨rule', mem', active'⟩
      exact Instant.exists_held_of_add_le (least _ mem' since' active')
    · rintro - -
      obtain ⟨held, eq, -⟩ := Instant.exists_held_of_add_le exact.le
      rw [eq] at exact
      exact ⟨since, limit, ⟨rule, mem, active⟩, held, eq, by exact_mod_cast exact⟩
  | healthy inactive =>
    have stopped : ∀ since limit, ¬n.timers rules since limit := by
      rintro since limit ⟨rule, mem, active⟩
      exact inactive _ mem since active
    exact ⟨by simp [stopped], by simp [stopped], by simp [stopped]⟩

theorem Assessed.settled (h : n.Assessed now rules a) (h' : n.Assessed later rules a')
    (healthy : a.unhealthy = false) (settled : a.recheckAfter = .zero) : a' = a := by
  cases h with
  | expired => cases healthy
  | pending mem active exact pos least =>
    cases settled
    cases pos
  | healthy inactive => exact h'.eq.symm.trans (Assessed.healthy inactive).eq

theorem Assessed.started (h : n.Assessed now rules a) (waiting : a.recheckAfter ≠ .zero) :
    ∃ since limit, n.timers rules since limit := by
  cases h with
  | expired => exact absurd rfl waiting
  | pending mem active exact pos least => exact ⟨_, _, _, mem, active⟩
  | healthy inactive => exact absurd rfl waiting

end Node

namespace Machine

def timers (machine : Machine) (since : Option Instant) (limit : Duration) : Prop :=
  ∃ start, machine.lastUpdated? = some start ∧ since = some start ∧ limit = .ofSeconds 600

variable {machine : Machine} {a a' : Assessment}

theorem Assessed.madeBy (h : machine.Assessed now a) : a.MadeBy machine.timers now := by
  have grace : (Duration.ofSeconds 600).nanos = 600 * nanosPerSecond := nanos_nodeGracePeriod
  cases h with
  | neverUpdated unknown =>
    have stopped : ∀ since limit, ¬machine.timers since limit := by simp [timers, unknown]
    exact ⟨by simp [stopped], by simp [stopped], by simp [stopped]⟩
  | @expired since updated reached =>
    refine ⟨?_, nofun, nofun⟩
    have reached : (Duration.ofSeconds 600).nanos ≤ now.held (some since) := by
      rw [grace, Instant.held]
      exact_mod_cast reached
    simpa using ⟨some since, _, ⟨since, updated, rfl, rfl⟩, reached⟩
  | @pending since delay updated exact pos =>
    have timer : machine.timers (some since) (.ofSeconds 600) := ⟨since, updated, rfl, rfl⟩
    have only : ∀ since' limit, machine.timers since' limit →
        since' = some since ∧ limit = .ofSeconds 600 := by
      rintro since' limit ⟨start, updated', rfl, rfl⟩
      cases updated.symm.trans updated'
      exact ⟨rfl, rfl⟩
    rw [← grace] at exact
    constructor
    · constructor
      · intro unhealthy
        cases unhealthy
      · rintro ⟨since', limit, timer', reached⟩
        obtain ⟨rfl, rfl⟩ := only since' limit timer'
        rw [Instant.held] at reached
        norm_cast at reached
        omega
    · intro healthy since' limit timer'
      obtain ⟨rfl, rfl⟩ := only since' limit timer'
      exact ⟨_, rfl, exact.le⟩
    · rintro - -
      exact ⟨_, _, timer, _, rfl, exact⟩

theorem Assessed.unsettled (h : machine.Assessed now a) (healthy : a.unhealthy = false) :
    a.recheckAfter ≠ .zero := by
  cases h with
  | neverUpdated unknown =>
    change Duration.ofSeconds 600 ≠ .zero
    decide
  | expired => cases healthy
  | pending updated exact pos =>
    rintro rfl
    cases pos

end Machine

theorem Rule.exists_limits {rules : List Rule}
    (timed : ∀ rule ∈ rules, ∃ limit, Duration.parse rule.timeout = .ok limit) :
    ∃ limits, Rule.limits rules = .ok limits := by
  apply exists_mapM_eq_ok
  intro rule mem
  obtain ⟨limit, parsed⟩ := timed rule mem
  exact ⟨(rule, limit), withLimit_eq_ok_iff.mpr ⟨rfl, parsed⟩⟩

theorem Rule.mem_of_mem_limits {rules : List Rule} {limits : List (Rule × Duration)} {rule : Rule}
    {limit : Duration} (limited : Rule.limits rules = .ok limits) (mem : (rule, limit) ∈ limits) :
    rule ∈ rules := by
  have timed := limits_eq_ok_iff.mp limited
  clear limited
  induction timed with
  | nil => cases mem
  | cons first rest ih =>
    cases mem with
    | head => simp [first.1]
    | tail _ mem => exact List.mem_cons_of_mem _ (ih mem)

namespace Target

variable {t : Target} {rules : List Rule}

theorem evolves_of_absent (slot : t.node = .absent) (passed : now.Passed later elapsed)
    (flat : ∀ since, t.Consults rules since → since.isLeap = false) :
    (t.machine.judgeWithoutNode now).assessment.Evolves (t.CountsFromPast rules now) elapsed
      (t.machine.judgeWithoutNode later).assessment := by
  have assessed := t.machine.assessed_judgeWithoutNode now
  have assessed' := t.machine.assessed_judgeWithoutNode later
  have consults : ∀ since limit, t.machine.timers (some since) limit → t.Consults rules since := by
    rintro since limit ⟨start, updated, eq, -⟩
    cases eq
    exact .update slot updated
  have evolves := assessed.madeBy.evolves assessed'.madeBy passed
    (fun since limit timer => flat since (consults since limit timer))
    fun healthy settled => absurd settled (assessed.unsettled healthy)
  apply evolves.imp
  intro counts
  obtain ⟨since, updated⟩ := counts.known slot
  exact ⟨fun _ => ⟨_, _, since, updated, rfl, rfl⟩,
    fun since limit timer => counts.past since (consults since limit timer)⟩

theorem evolves_of_present {n : Node} {limits : List (Rule × Duration)} (slot : t.node = .present n)
    (limited : Rule.limits rules = .ok limits) (passed : now.Passed later elapsed)
    (flat : ∀ since, t.Consults rules since → since.isLeap = false) :
    (n.judge now none limits).assessment.Evolves (t.CountsFromPast rules now) elapsed
      (n.judge later none limits).assessment := by
  have assessed := n.assessed_judge now limits
  have assessed' := n.assessed_judge later limits
  have consults : ∀ since limit, n.timers limits (some since) limit → t.Consults rules since := by
    rintro since limit ⟨rule, mem, active⟩
    exact .transition slot (Rule.mem_of_mem_limits limited mem) active
  have evolves := assessed.madeBy.evolves assessed'.madeBy passed
    (fun since limit timer => flat since (consults since limit timer)) (assessed.settled assessed')
  apply evolves.imp
  intro counts
  exact ⟨assessed.started, fun since limit timer => counts.past since (consults since limit timer)⟩

/-- With the clock, evaluations of a target go on as they have been announced. -/
theorem evaluate_evolves (timed : ∀ rule ∈ rules, ∃ limit, Duration.parse rule.timeout = .ok limit)
    (passed : now.Passed later elapsed)
    (flat : ∀ since, t.Consults rules since → since.isLeap = false) :
    ∃ a a', (t.evaluate rules now).map Verdict.assessment = .ok a ∧
      (t.evaluate rules later).map Verdict.assessment = .ok a' ∧
      a.Evolves (t.CountsFromPast rules now) elapsed a' := by
  rw [evaluate, evaluate]
  by_cases failed : t.machine.phase?.any MachinePhase.isTerminalFailure = true
  · rw [if_pos failed, if_pos failed]
    exact ⟨_, _, rfl, rfl, .of_unhealthy rfl⟩
  rw [if_neg failed, if_neg failed]
  cases slot : t.node with
  | missing name => exact ⟨_, _, rfl, rfl, .of_unhealthy rfl⟩
  | absent => exact ⟨_, _, rfl, rfl, evolves_of_absent slot passed flat⟩
  | present n =>
    obtain ⟨limits, limited⟩ := Rule.exists_limits timed
    rw [limited]
    exact ⟨_, _, rfl, rfl, evolves_of_present slot limited passed flat⟩

end Target

namespace Cluster

namespace Sample

theorem consults_unready {since : Instant} (consults : unready.Consults readyRules since) :
    since = .epoch := by
  cases consults with
  | update slot updated => cases slot
  | transition slot mem active =>
    cases slot
    obtain ⟨condition, ⟨status, before, after, hasStatus, only, -⟩, -, -, since⟩ := active
    cases hasStatus
    cases before with
    | nil =>
      cases only
      cases since
      rfl
    | cons first before => simp at only

end Sample

/-- The node that is not ready makes its machine unhealthy when the shorter timeout is over, to the
nanosecond. -/
theorem unready_after_five_minutes :
    ((∀ rule ∈ Sample.readyRules, ∃ limit, Duration.parse rule.timeout = .ok limit) ∧
      Instant.epoch.Passed Sample.fiveMinutes (300 * nanosPerSecond) ∧
      (∀ since, Sample.unready.Consults Sample.readyRules since → since.isLeap = false) ∧
      Sample.unready.CountsFromPast Sample.readyRules .epoch) ∧
    (Sample.unready.evaluate Sample.readyRules .epoch).map Verdict.assessment =
      .ok ⟨false, .ofSeconds 300, "Node n1 has a condition pending its timeout"⟩ ∧
    ∃ a, (Sample.unready.evaluate Sample.readyRules Sample.fiveMinutes).map Verdict.assessment =
      .ok a ∧ a.unhealthy = true := by
  have timed : ∀ rule ∈ Sample.readyRules, ∃ limit, Duration.parse rule.timeout = .ok limit := by
    have first : Duration.parse "5m0.25s" = .ok ⟨300250000000, by decide⟩ := by decide +kernel
    have second : Duration.parse "5m" = .ok ⟨300000000000, by decide⟩ := by decide +kernel
    simp [Sample.readyRules, first, second]
  have passed : Instant.epoch.Passed Sample.fiveMinutes (300 * nanosPerSecond) :=
    ⟨rfl, rfl, by decide⟩
  have flat : ∀ since, Sample.unready.Consults Sample.readyRules since → since.isLeap = false := by
    intro since consults
    rw [Sample.consults_unready consults]
    rfl
  have past : Sample.unready.CountsFromPast Sample.readyRules .epoch := by
    constructor
    · intro absent
      cases absent
    · intro since consults
      rw [Sample.consults_unready consults]
  have pending : (Sample.unready.evaluate Sample.readyRules .epoch).map Verdict.assessment =
      .ok ⟨false, .ofSeconds 300, "Node n1 has a condition pending its timeout"⟩ := by
    decide +kernel
  obtain ⟨a, a', assessed, assessed', evolves⟩ := Target.evaluate_evolves timed passed flat
  rw [pending] at assessed
  cases assessed
  exact ⟨⟨timed, passed, flat, past⟩, pending, a', assessed',
    evolves.due past rfl (by decide) (by decide)⟩

end Cluster

end FleetHealth
