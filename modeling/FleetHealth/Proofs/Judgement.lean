import FleetHealth.Proofs.Schedule
import Mathlib.Data.ENat.Basic

namespace FleetHealth

open ClusterObject

structure Assessment where
  unhealthy : Bool
  recheckAfter : Duration
  reason : String
  deriving DecidableEq

def Verdict.assessment (v : Verdict) : Assessment where
  unhealthy := v.isUnhealthy
  recheckAfter := v.recheckAfter
  reason := v.reason

/-- The nanoseconds since an instant, without end if it is not known. -/
def Instant.held (now : Instant) : Option Instant → ℕ∞
  | none => ⊤
  | some since => (now.nanosSince since).toNat

namespace Node

def Reports (n : Node) (condition : NodeCondition) : Prop :=
  ∃ status before after, n.status = some status ∧
    status.conditions = some (before ++ condition :: after) ∧
    ∀ other ∈ before, other.type ≠ condition.type

/-- A rule is active for a node, and has been so since an instant, if that is known. -/
def Active (n : Node) (rule : Rule) (since : Option Instant) : Prop :=
  ∃ condition, n.Reports condition ∧ condition.type = rule.conditionType ∧
    condition.status = rule.status ∧ condition.lastTransition = since

inductive Assessed (n : Node) (now : Instant) (rules : List (Rule × Duration)) : Assessment → Prop
  | expired {before rule limit after since} (split : rules = before ++ (rule, limit) :: after)
      (active : n.Active rule since) (reached : limit.nanos ≤ now.held since)
      (first : ∀ r ∈ before, ∀ since, n.Active r.1 since → now.held since < r.2.nanos) :
      Assessed n now rules ⟨true, .zero, (UnhealthyCause.condition (shownName n) rule limit).text⟩
  | pending {rule limit since delay} (mem : (rule, limit) ∈ rules) (active : n.Active rule since)
      (exact : now.held since + delay.nanos = limit.nanos) (pos : 0 < delay.nanos)
      (least : ∀ r ∈ rules, ∀ since, n.Active r.1 since →
        now.held since + delay.nanos ≤ r.2.nanos) :
      Assessed n now rules ⟨false, delay, (PendingCause.condition (shownName n)).text⟩
  | healthy (inactive : ∀ r ∈ rules, ∀ since, ¬n.Active r.1 since) :
      Assessed n now rules ⟨false, .zero, Verdict.healthy.reason⟩

end Node

inductive Machine.Assessed (machine : Machine) (now : Instant) : Assessment → Prop
  | neverUpdated (unknown : machine.lastUpdated? = none) :
      Assessed machine now
        ⟨false, .ofSeconds 600, (PendingCause.noNode (shownName machine)).text⟩
  | expired {since} (updated : machine.lastUpdated? = some since)
      (reached : 600 * nanosPerSecond ≤ (now.nanosSince since).toNat) :
      Assessed machine now
        ⟨true, .zero, (UnhealthyCause.noNode (shownName machine) (.ofSeconds 600)).text⟩
  | pending {since delay} (updated : machine.lastUpdated? = some since)
      (exact : (now.nanosSince since).toNat + delay.nanos = 600 * nanosPerSecond)
      (pos : 0 < delay.nanos) :
      Assessed machine now ⟨false, delay, (PendingCause.awaitingNode (shownName machine)).text⟩

inductive Target.Assessed (rules : List Rule) (now : Instant) (t : Target) :
    Except Failure Assessment → Prop
  | failed (phase : t.machine.phase? = some .failed) :
      Assessed rules now t
        (.ok ⟨true, .zero, (UnhealthyCause.failedPhase (shownName t.machine)).text⟩)
  | withoutNode {a} (running : t.machine.phase? ≠ some .failed) (slot : t.node = .absent)
      (assessed : t.machine.Assessed now a) : Assessed rules now t (.ok a)
  | dangling {name} (running : t.machine.phase? ≠ some .failed) (slot : t.node = .missing name) :
      Assessed rules now t
        (.ok ⟨true, .zero, (UnhealthyCause.danglingNode (shownName t.machine) name).text⟩)
  | untimed {n before rule after fault} (running : t.machine.phase? ≠ some .failed)
      (slot : t.node = .present n) (split : rules = before ++ rule :: after)
      (timed : ∀ r ∈ before, ∃ limit, Duration.parse r.timeout = .ok limit)
      (untimed : Duration.parse rule.timeout = .error fault) :
      Assessed rules now t
        (.error (.timeout rule.conditionType rule.timeout (fault.message rule.timeout)))
  | judged {n limits a} (running : t.machine.phase? ≠ some .failed) (slot : t.node = .present n)
      (timed : List.Forall₂ (fun rule limited => rule = limited.1 ∧
        Duration.parse rule.timeout = .ok limited.2) rules limits)
      (assessed : n.Assessed now limits a) : Assessed rules now t (.ok a)

/-! Limits -/

namespace Rule

variable {rules : List Rule} {rule : Rule} {limit : Duration} {f : Failure}

theorem limit_eq_ok_iff : rule.limit = .ok limit ↔ Duration.parse rule.timeout = .ok limit := by
  rw [Rule.limit]
  cases Duration.parse rule.timeout <;> simp [Except.mapError]

theorem limit_eq_error_iff : rule.limit = .error f ↔ ∃ fault,
    Duration.parse rule.timeout = .error fault ∧
      f = .timeout rule.conditionType rule.timeout (fault.message rule.timeout) := by
  rw [Rule.limit]
  cases Duration.parse rule.timeout <;> simp [Except.mapError, eq_comm]

theorem withLimit_eq_ok_iff {limited : Rule × Duration} :
    (do return (rule, ← rule.limit) : Except Failure (Rule × Duration)) = .ok limited ↔
      rule = limited.1 ∧ Duration.parse rule.timeout = .ok limited.2 := by
  rw [← limit_eq_ok_iff]
  cases rule.limit <;> simp [bind, Except.bind, pure, Except.pure, Prod.ext_iff]

theorem withLimit_eq_error_iff :
    (do return (rule, ← rule.limit) : Except Failure (Rule × Duration)) = .error f ↔
      rule.limit = .error f := by
  cases rule.limit <;> simp [bind, Except.bind, pure, Except.pure]

theorem limits_eq_ok_iff {limits : List (Rule × Duration)} :
    Rule.limits rules = .ok limits ↔ List.Forall₂ (fun rule limited => rule = limited.1 ∧
      Duration.parse rule.timeout = .ok limited.2) rules limits := by
  simp only [← withLimit_eq_ok_iff]
  exact ⟨mapM_eq_ok, mapM_of_forall₂⟩

theorem limits_eq_error_iff : Rule.limits rules = .error f ↔ ∃ before rule after fault,
    rules = before ++ rule :: after ∧
      (∀ r ∈ before, ∃ limit, Duration.parse r.timeout = .ok limit) ∧
      Duration.parse rule.timeout = .error fault ∧
      f = .timeout rule.conditionType rule.timeout (fault.message rule.timeout) := by
  rw [Rule.limits, mapM_eq_error_iff]
  simp only [withLimit_eq_ok_iff, withLimit_eq_error_iff, limit_eq_error_iff]
  simp

end Rule

/-! Nodes -/

theorem Instant.exists_held_of_add_le {now : Instant} {since : Option Instant} {delay limit : Nat}
    (le : now.held since + delay ≤ limit) :
    ∃ elapsed : Nat, now.held since = elapsed ∧ elapsed + delay ≤ limit := by
  cases since with
  | none => simp [held] at le
  | some since =>
    rw [held] at le
    exact ⟨_, rfl, by exact_mod_cast le⟩

theorem Instant.held_lt_of_add_le {now : Instant} {since : Option Instant} {delay limit : Duration}
    (pos : 0 < delay.nanos) (le : now.held since + delay.nanos ≤ limit.nanos) :
    now.held since < limit.nanos := by
  obtain ⟨elapsed, eq, within⟩ := exists_held_of_add_le le
  rw [eq, Nat.cast_lt]
  omega

theorem Duration.shortest?_eq_some_iff {ds : List Duration} {d : Duration} :
    shortest? ds = some d ↔ d ∈ ds ∧ ∀ d' ∈ ds, d.nanos ≤ d'.nanos := by
  refine ⟨shortest?_eq_some, ?_⟩
  rintro ⟨mem, least⟩
  cases shortest : shortest? ds with
  | none =>
    cases ds with
    | nil => cases mem
    | cons first ds => cases shortest
  | some d' =>
    obtain ⟨mem', least'⟩ := shortest?_eq_some shortest
    exact congrArg some (Duration.ext (Nat.le_antisymm (least' d mem) (least d' mem')))

theorem Duration.shortest?_eq_none_iff {ds : List Duration} : shortest? ds = none ↔ ds = [] := by
  cases ds <;> simp [shortest?]

namespace Node

variable {n : Node} {now : Instant} {rules : List (Rule × Duration)} {delay : Option Duration}
  {rule : Rule} {limit held : Duration} {since : Option Instant}

def hasRunOut (n : Node) (now : Instant) (r : Rule × Duration) : Bool :=
  (n.heldFor r.1 now).any (r.2 ≤ ·)

def remaining? (n : Node) (now : Instant) (r : Rule × Duration) : Option Duration :=
  (n.heldFor r.1 now).map r.2.minus

/-- The first rule that has run out decides, or else what is left of the others. -/
theorem judge_eq : n.judge now delay rules =
    match rules.find? (n.hasRunOut now) with
    | some (rule, limit) => .unhealthy (.condition (shownName n) rule limit)
    | none =>
      match Duration.shortest? (delay.toList ++ rules.filterMap (n.remaining? now)) with
      | some delay => .pending delay (.condition (shownName n))
      | none => .healthy := by
  -- the delay that is left so far is an accumulator, so it has to vary
  induction rules generalizing delay with
  | nil => cases delay <;> rfl
  | cons first rules ih =>
    obtain ⟨rule, limit⟩ := first
    rw [judge]
    cases held : n.heldFor rule now with
    | none =>
      have running : n.hasRunOut now (rule, limit) = false := by simp [hasRunOut, held]
      have nothing : n.remaining? now (rule, limit) = none := by simp [remaining?, held]
      simp only [List.find?_cons, running, List.filterMap_cons, nothing]
      exact ih
    | some time =>
      have left : n.remaining? now (rule, limit) = some (limit.minus time) := by
        simp [remaining?, held]
      by_cases reached : limit ≤ time
      · have stopped : n.hasRunOut now (rule, limit) = true := by simp [hasRunOut, held, reached]
        simp only [reached, if_true, List.find?_cons, stopped]
      · have running : n.hasRunOut now (rule, limit) = false := by simp [hasRunOut, held, reached]
        simp only [reached, if_false, List.find?_cons, running, List.filterMap_cons, left]
        rw [ih]
        cases delay <;> rfl

theorem condition?_eq_some_iff {type : String} {condition : NodeCondition} :
    n.condition? type = some condition ↔ n.Reports condition ∧ condition.type = type := by
  simp only [condition?, Reports, bind, Option.bind_eq_some_iff, List.find?_eq_some_iff_append]
  constructor
  · rintro ⟨status, hasStatus, conditions, hasConditions, same, before, after, rfl, others⟩
    have same : condition.type = type := by simpa using same
    refine ⟨⟨status, before, after, hasStatus, hasConditions, ?_⟩, same⟩
    simpa [same] using others
  · rintro ⟨⟨status, before, after, hasStatus, hasConditions, others⟩, rfl⟩
    exact ⟨status, hasStatus, _, hasConditions, by simp, before, after, rfl, by simpa using others⟩

theorem heldFor_eq_some_iff_active :
    n.heldFor rule now = some held ↔
      ∃ since, n.Active rule since ∧ held = since.elim .max now.elapsedSince := by
  simp only [heldFor_eq_some_iff, condition?_eq_some_iff, Active]
  constructor
  · rintro ⟨condition, ⟨reports, type⟩, status, rfl⟩
    exact ⟨_, ⟨condition, reports, type, status, rfl⟩, rfl⟩
  · rintro ⟨since, ⟨condition, reports, type, status, rfl⟩, rfl⟩
    exact ⟨condition, ⟨reports, type⟩, status, rfl⟩

theorem le_elapsed_iff :
    limit ≤ since.elim .max now.elapsedSince ↔ (limit.nanos : ℕ∞) ≤ now.held since := by
  cases since with
  | none =>
    have longest : limit ≤ .max := Nat.le_sub_one_of_lt limit.nanos_lt
    simp [longest, Instant.held]
  | some since => simp [Instant.held, Duration.le_def, Instant.nanos_elapsedSince]

theorem hasRunOut_iff : n.hasRunOut now (rule, limit) = true ↔
    ∃ since, n.Active rule since ∧ (limit.nanos : ℕ∞) ≤ now.held since := by
  simp only [hasRunOut, Option.any_eq_true, heldFor_eq_some_iff_active, decide_eq_true_eq,
    ← le_elapsed_iff]
  grind

theorem hasRunOut_eq_false_iff : n.hasRunOut now (rule, limit) = false ↔
    ∀ since, n.Active rule since → now.held since < limit.nanos := by
  simp [← Bool.not_eq_true, hasRunOut_iff]

theorem minus_elapsed_eq_iff {delay : Duration} (short : now.held since < limit.nanos) :
    limit.minus (since.elim .max now.elapsedSince) = delay ↔
      now.held since + delay.nanos = limit.nanos := by
  cases since with
  | none => exact absurd short not_top_lt
  | some since =>
    rw [Instant.held, Nat.cast_lt] at short
    rw [Instant.held, Option.elim_some, Duration.ext_iff, Duration.nanos_minus,
      Instant.nanos_elapsedSince]
    norm_cast
    omega

theorem remaining?_eq_some_iff {delay : Duration} (running : n.hasRunOut now (rule, limit) = false) :
    n.remaining? now (rule, limit) = some delay ↔
      ∃ since, n.Active rule since ∧ now.held since + delay.nanos = limit.nanos := by
  rw [hasRunOut_eq_false_iff] at running
  simp only [remaining?, Option.map_eq_some_iff, heldFor_eq_some_iff_active]
  constructor
  · rintro ⟨_, ⟨since, active, rfl⟩, left⟩
    exact ⟨since, active, (minus_elapsed_eq_iff (running since active)).mp left⟩
  · rintro ⟨since, active, exact⟩
    exact ⟨_, ⟨since, active, rfl⟩, (minus_elapsed_eq_iff (running since active)).mpr exact⟩

theorem exists_remaining? (running : n.hasRunOut now (rule, limit) = false)
    (active : n.Active rule since) : ∃ delay, n.remaining? now (rule, limit) = some delay ∧
      now.held since + delay.nanos = limit.nanos := by
  have left : n.remaining? now (rule, limit) =
      some (limit.minus (since.elim .max now.elapsedSince)) := by
    rw [remaining?, heldFor_eq_some_iff_active.mpr ⟨since, active, rfl⟩]
    rfl
  exact ⟨_, left, (minus_elapsed_eq_iff (hasRunOut_eq_false_iff.mp running since active)).mp rfl⟩

theorem assessed_judge (n : Node) (now : Instant) (rules : List (Rule × Duration)) :
    n.Assessed now rules (n.judge now none rules).assessment := by
  rw [judge_eq]
  cases found : rules.find? (n.hasRunOut now) with
  | some r =>
    obtain ⟨rule, limit⟩ := r
    obtain ⟨stopped, before, after, split, running⟩ := List.find?_eq_some_iff_append.mp found
    obtain ⟨since, active, reached⟩ := hasRunOut_iff.mp stopped
    apply Assessed.expired split active reached
    intro r mem
    exact hasRunOut_eq_false_iff.mp (by simpa using running r mem)
  | none =>
    have running : ∀ r ∈ rules, n.hasRunOut now r = false := by simpa using found
    rw [Option.toList_none, List.nil_append]
    cases shortest : Duration.shortest? (rules.filterMap (n.remaining? now)) with
    | some delay =>
      obtain ⟨left, least⟩ := Duration.shortest?_eq_some shortest
      obtain ⟨⟨rule, limit⟩, mem, left⟩ := List.mem_filterMap.mp left
      obtain ⟨since, active, exact⟩ := (remaining?_eq_some_iff (running _ mem)).mp left
      have short := hasRunOut_eq_false_iff.mp (running _ mem) since active
      apply Assessed.pending mem active exact
      · apply Nat.pos_of_ne_zero
        intro none
        rw [none, Nat.cast_zero, add_zero] at exact
        exact short.ne exact
      · rintro ⟨rule', limit'⟩ mem' since' active'
        obtain ⟨delay', left', exact'⟩ := exists_remaining? (running _ mem') active'
        rw [← exact']
        have le := least delay' (List.mem_filterMap.mpr ⟨_, mem', left'⟩)
        gcongr
    | none =>
      rw [Duration.shortest?_eq_none_iff] at shortest
      apply Assessed.healthy
      rintro ⟨rule, limit⟩ mem since active
      obtain ⟨delay, left, -⟩ := exists_remaining? (running _ mem) active
      have mem : delay ∈ rules.filterMap (n.remaining? now) := List.mem_filterMap.mpr ⟨_, mem, left⟩
      rw [shortest] at mem
      cases mem

theorem Assessed.eq {a : Assessment} (h : n.Assessed now rules a) :
    (n.judge now none rules).assessment = a := by
  rw [judge_eq]
  cases h with
  | @expired before rule limit after since split active reached first =>
    have found : rules.find? (n.hasRunOut now) = some (rule, limit) := by
      refine List.find?_eq_some_iff_append.mpr
        ⟨hasRunOut_iff.mpr ⟨since, active, reached⟩, before, after, split, ?_⟩
      intro r mem
      simpa using hasRunOut_eq_false_iff.mpr (first r mem)
    rw [found]
    rfl
  | @pending rule limit since delay mem active exact pos least =>
    have running : ∀ r ∈ rules, n.hasRunOut now r = false := by
      rintro ⟨rule', limit'⟩ mem'
      apply hasRunOut_eq_false_iff.mpr
      intro since' active'
      -- a rule that had run out would have less left than the least delay
      exact Instant.held_lt_of_add_le pos (least _ mem' since' active')
    have found : rules.find? (n.hasRunOut now) = none := by simpa using running
    have shortest : Duration.shortest? (rules.filterMap (n.remaining? now)) = some delay := by
      apply Duration.shortest?_eq_some_iff.mpr
      constructor
      · have left := (remaining?_eq_some_iff (running _ mem)).mpr ⟨since, active, exact⟩
        exact List.mem_filterMap.mpr ⟨_, mem, left⟩
      · intro delay' mem'
        obtain ⟨⟨rule', limit'⟩, mem', left⟩ := List.mem_filterMap.mp mem'
        obtain ⟨since', active', exact'⟩ := (remaining?_eq_some_iff (running _ mem')).mp left
        have short := hasRunOut_eq_false_iff.mp (running _ mem') since' active'
        have within := least _ mem' since' active'
        -- a rule that is short of its limit has been active for a finite time, which cancels
        rw [← exact', ENat.add_le_add_iff_left short.ne_top, Nat.cast_le] at within
        exact within
    rw [found, Option.toList_none, List.nil_append, shortest]
    rfl
  | healthy inactive =>
    have running : ∀ r ∈ rules, n.hasRunOut now r = false := by
      rintro ⟨rule, limit⟩ mem
      apply hasRunOut_eq_false_iff.mpr
      intro since active
      exact absurd active (inactive _ mem since)
    have found : rules.find? (n.hasRunOut now) = none := by simpa using running
    have nothing : rules.filterMap (n.remaining? now) = [] := by
      apply List.filterMap_eq_nil_iff.mpr
      rintro ⟨rule, limit⟩ mem
      cases left : n.remaining? now (rule, limit) with
      | none => rfl
      | some delay =>
        obtain ⟨since, active, -⟩ := (remaining?_eq_some_iff (running _ mem)).mp left
        exact absurd active (inactive _ mem since)
    rw [found, nothing]
    rfl

end Node

/-! Targets -/

namespace Machine

variable {machine : Machine} {now : Instant} {a : Assessment}

theorem nanos_nodeGracePeriod : nodeGracePeriod.nanos = 600 * nanosPerSecond := by decide

theorem assessed_judgeWithoutNode (machine : Machine) (now : Instant) :
    machine.Assessed now (machine.judgeWithoutNode now).assessment := by
  rw [judgeWithoutNode]
  cases updated : machine.lastUpdated? with
  | none => exact .neverUpdated updated
  | some since =>
    by_cases reached : nodeGracePeriod ≤ now.elapsedSince since
    · simp only [reached, if_true]
      rw [Duration.le_def, nanos_nodeGracePeriod, Instant.nanos_elapsedSince] at reached
      exact .expired updated reached
    · simp only [reached, if_false]
      rw [Duration.le_def, nanos_nodeGracePeriod, Instant.nanos_elapsedSince] at reached
      have left : (nodeGracePeriod.minus (now.elapsedSince since)).nanos =
          600 * nanosPerSecond - (now.nanosSince since).toNat := by
        rw [Duration.nanos_minus, nanos_nodeGracePeriod, Instant.nanos_elapsedSince]
      change machine.Assessed now ⟨false, nodeGracePeriod.minus (now.elapsedSince since), _⟩
      apply Assessed.pending updated
      · omega
      · omega

theorem Assessed.eq (h : machine.Assessed now a) :
    (machine.judgeWithoutNode now).assessment = a := by
  rw [judgeWithoutNode]
  cases h with
  | neverUpdated unknown =>
    rw [unknown]
    rfl
  | expired updated reached =>
    rw [← nanos_nodeGracePeriod, ← Instant.nanos_elapsedSince, ← Duration.le_def] at reached
    simp only [updated, reached, if_true]
    rfl
  | @pending since delay updated exact pos =>
    rw [← nanos_nodeGracePeriod, ← Instant.nanos_elapsedSince] at exact
    have waiting : ¬nodeGracePeriod ≤ now.elapsedSince since := by
      rw [Duration.le_def]
      omega
    have left : nodeGracePeriod.minus (now.elapsedSince since) = delay := by
      rw [Duration.ext_iff, Duration.nanos_minus]
      omega
    simp only [updated, waiting, if_false, left]
    rfl

end Machine

namespace Target

variable {t : Target} {rules : List Rule} {now : Instant} {r : Except Failure Assessment}

theorem hasFailed_iff :
    t.machine.phase?.any MachinePhase.isTerminalFailure = true ↔
      t.machine.phase? = some .failed := by
  cases t.machine.phase? <;> simp [MachinePhase.isTerminalFailure]

theorem assessed_evaluate (t : Target) (rules : List Rule) (now : Instant) :
    t.Assessed rules now ((t.evaluate rules now).map Verdict.assessment) := by
  rw [evaluate]
  by_cases phase : t.machine.phase? = some .failed
  · rw [if_pos (hasFailed_iff.mpr phase)]
    exact .failed phase
  · rw [if_neg (mt hasFailed_iff.mp phase)]
    cases slot : t.node with
    | absent => exact .withoutNode phase slot (Machine.assessed_judgeWithoutNode t.machine now)
    | missing name => exact .dangling phase slot
    | present n =>
      cases limited : Rule.limits rules with
      | error f =>
        obtain ⟨before, rule, after, fault, split, timed, untimed, rfl⟩ :=
          Rule.limits_eq_error_iff.mp limited
        exact .untimed phase slot split timed untimed
      | ok limits =>
        exact .judged phase slot (Rule.limits_eq_ok_iff.mp limited) (n.assessed_judge now limits)

theorem Assessed.eq (h : t.Assessed rules now r) :
    (t.evaluate rules now).map Verdict.assessment = r := by
  rw [evaluate]
  cases h with
  | failed phase =>
    rw [if_pos (hasFailed_iff.mpr phase)]
    rfl
  | withoutNode running slot assessed =>
    rw [if_neg (mt hasFailed_iff.mp running), slot]
    exact congrArg Except.ok assessed.eq
  | dangling running slot =>
    rw [if_neg (mt hasFailed_iff.mp running), slot]
    rfl
  | untimed running slot split timed untimed =>
    have unlimited := Rule.limits_eq_error_iff.mpr ⟨_, _, _, _, split, timed, untimed, rfl⟩
    rw [if_neg (mt hasFailed_iff.mp running), slot, unlimited]
    rfl
  | judged running slot timed assessed =>
    have limited := Rule.limits_eq_ok_iff.mpr timed
    rw [if_neg (mt hasFailed_iff.mp running), slot, limited]
    exact congrArg Except.ok assessed.eq

/-- An evaluation says what is to be said of the target, and nothing else. -/
theorem evaluate_iff_assessed (t : Target) (rules : List Rule) (now : Instant)
    (r : Except Failure Assessment) :
    (t.evaluate rules now).map Verdict.assessment = r ↔ t.Assessed rules now r := by
  constructor
  · rintro rfl
    exact assessed_evaluate t rules now
  · exact Assessed.eq

end Target

namespace Cluster

namespace Sample

def unreadyNode : Node :=
  { node "n1" with
    status := some {
      conditions := some [{
        type := "Ready", status := "False", lastTransition := some .epoch
        lastHeartbeat := none, reason := none, message := none }]
      other := [] } }

def unready : Target where
  machine := fresh
  node := .present unreadyNode

def readyRules : List Rule :=
  [{ conditionType := "Ready", status := "False", timeout := "5m0.25s" },
    { conditionType := "Ready", status := "False", timeout := "5m" }]

def fiveMinutes : Instant := ⟨300, 0, by decide⟩

end Sample

/-- A rule that has run out decides behind one that has a quarter of a second left, unless the
machine has failed or some rule has no timeout that can be read. -/
theorem unready_assessed :
    Sample.unready.Assessed Sample.readyRules .epoch
      (.ok ⟨false, .ofSeconds 300, "Node n1 has a condition pending its timeout"⟩) ∧
    Sample.unready.Assessed Sample.readyRules Sample.fiveMinutes
      (.ok ⟨true, .zero, "Node n1 has condition Ready=False for longer than 300s"⟩) ∧
    Sample.unready.Assessed (Sample.readyRules ++ [⟨"Disk", "Full", "soon"⟩, ⟨"Disk", "Full", ""⟩])
      Sample.fiveMinutes (.error (.timeout "Disk" "soon" "invalid duration: soon")) ∧
    Target.Assessed (Sample.readyRules ++ [⟨"Disk", "Full", "soon"⟩]) Sample.fiveMinutes
      { Sample.unready with machine := Sample.worker }
      (.ok ⟨true, .zero, "Machine worker is in a failed phase"⟩) := by
  refine ⟨?_, ?_, ?_, ?_⟩
  · exact (Target.evaluate_iff_assessed ..).mp (by decide +kernel)
  · exact (Target.evaluate_iff_assessed ..).mp (by decide +kernel)
  · exact (Target.evaluate_iff_assessed ..).mp (by decide +kernel)
  · exact (Target.evaluate_iff_assessed ..).mp (by decide +kernel)

end Cluster

end FleetHealth
