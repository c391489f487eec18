import FleetHealth.Proofs.Pass
/-!
Stores that keep a log of their writes. Such a store answers like the one under it, so that a pass
over it is the same pass, and the log is told target by target. A store that logs what it is asked
for tells which writes a pass tried, those among them that were refused.
-/

namespace FleetHealth

open ClusterObject

inductive WriteRequest where
  | replace (kind : ResourceKind) (k : Key)
  | delete (kind : ResourceKind) (k : Key)
  deriving DecidableEq

def Target.writes (t : Target) : List WriteRequest :=
  if t.plan = .replace then [.delete Machine.kind t.key]
  else t.nodeToReboot?.toList.map fun n => .replace Node.kind (ClusterObject.key n)

theorem Target.writes_of_idle {t : Target} (notReplace : t.plan ≠ .replace)
    (idle : t.nodeToReboot? = none) : t.writes = [] := by
  rw [writes, if_neg notReplace, idle, Option.toList_none, List.map_nil]

theorem Target.writes_of_node {t : Target} {n : Node} (h : t.nodeToReboot? = some n) :
    t.writes = [.replace Node.kind (ClusterObject.key n)] := by
  rw [writes, (nodeToReboot?_eq_some_iff.mp h).1, h]
  rfl

theorem Target.writes_of_replace {t : Target} (h : t.plan = .replace) :
    t.writes = [.delete Machine.kind t.key] := if_pos h

variable {m : Type → Type} [Monad m]

def Repository.logged {α : Type} [ClusterObject α] (r : Repository m α) :
    Repository (StateT (List WriteRequest) m) α where
  get k := monadLift (r.get k)
  list ns selector := monadLift (r.list ns selector)
  replace a := do
    modify (· ++ [.replace (kind α) (key a)])
    monadLift (r.replace a)
  delete k := do
    modify (· ++ [.delete (kind α) k])
    monadLift (r.delete k)

namespace Store

def logged (s : Store m) : Store (StateT (List WriteRequest) m) where
  policies := s.policies.logged
  machines := s.machines.logged
  machineSets := s.machineSets.logged
  nodes := s.nodes.logged

structure ReadsThrough (s' : Store (StateT (List WriteRequest) m)) (s : Store m) : Prop where
  policies : ∀ k, s'.policies.get k = monadLift (s.policies.get k)
  machines : ∀ ns selector, s'.machines.list ns selector = monadLift (s.machines.list ns selector)
  nodes : ∀ k, s'.nodes.get k = monadLift (s.nodes.get k)

namespace ReadsThrough

variable [LawfulMonad m] {s' : Store (StateT (List WriteRequest) m)} {s : Store m}

theorem nodeOf (h : s'.ReadsThrough s) (machine : Machine) :
    s'.nodeOf machine = monadLift (s.nodeOf machine) := by
  rw [Store.nodeOf, Store.nodeOf]
  cases machine.nodeName? with
  | none => rw [monadLift_pure]
  | some name =>
    dsimp only
    rw [h.nodes, monadLift_bind]
    apply congrArg
    funext found
    rcases found with f | _ | n
    · rw [monadLift_pure]
    · rw [monadLift_pure]
    · rw [monadLift_pure]

theorem target (h : s'.ReadsThrough s) (machine : Machine) :
    s'.target machine = monadLift (s.target machine) := by
  rw [Store.target, Store.target, h.nodeOf, monadLift_bind]
  apply congrArg
  funext found
  rcases found with f | _ | n
  · cases f <;> simp only [monadLift_pure]
  · rw [monadLift_pure]
  · rw [monadLift_pure]

theorem targets (h : s'.ReadsThrough s) (machines : List Machine) :
    s'.targets machines = monadLift (s.targets machines) := by
  induction machines with
  | nil => rw [Store.targets, Store.targets, monadLift_pure]
  | cons machine machines ih =>
    rw [Store.targets, Store.targets, h.target, ih, monadLift_bind]
    apply congrArg
    funext first
    cases first with
    | error f => rw [monadLift_pure]
    | ok t =>
      dsimp only
      rw [monadLift_bind]
      apply congrArg
      funext rest
      rw [monadLift_pure]

theorem resolve (h : s'.ReadsThrough s) (policy : Policy) :
    s'.resolve policy = monadLift (s.resolve policy) := by
  rw [Store.resolve, Store.resolve]
  cases policy.spec.machineSelector with
  | error f => rw [monadLift_pure]
  | ok selector =>
    dsimp only
    rw [h.machines, monadLift_bind]
    apply congrArg
    funext listed
    cases listed with
    | error f => rw [monadLift_pure]
    | ok machines => exact h.targets machines

end ReadsThrough

end Store

namespace Cluster

def runLogged {α : Type} (x : StateT (List WriteRequest) (StateM Cluster) α)
    (log : List WriteRequest) (c : Cluster) : (α × List WriteRequest) × Cluster := (x.run log).run c

/-- What remediation of targets adds to a log, up to the first failure, told by what that of one
target adds to it. -/
def noted (note : Cluster → Target → List WriteRequest) (c : Cluster) :
    List Target → List WriteRequest
  | [] => []
  | t :: ts => match c.execute t with
    | (.error _, _) => note c t
    | (.ok _, c₁) => note c t ++ c₁.noted note ts

def actNoted (note : Cluster → Target → List WriteRequest) (c : Cluster) :
    Except Failure (Option (List (Target × Verdict))) → List WriteRequest
  | .ok (some survey) => c.noted note (unhealthyTargets survey)
  | _ => []

def attempts (c : Cluster) (ts : List Target) : List WriteRequest :=
  c.noted (fun _ t => t.writes) ts

def actAttempts (c : Cluster) (survey : Except Failure (Option (List (Target × Verdict)))) :
    List WriteRequest :=
  c.actNoted (fun _ t => t.writes) survey

variable {c : Cluster} {log : List WriteRequest} {note : Cluster → Target → List WriteRequest}
  {s : Store (StateT (List WriteRequest) (StateM Cluster))}

theorem runLogged_bind {α β : Type} (x : StateT (List WriteRequest) (StateM Cluster) α)
    (f : α → StateT (List WriteRequest) (StateM Cluster) β) :
    runLogged (x >>= f) log c =
      runLogged (f (runLogged x log c).1.1) (runLogged x log c).1.2 (runLogged x log c).2 := rfl

theorem runLogged_pure {α : Type} (a : α) : runLogged (pure a) log c = ((a, log ++ []), c) := by
  rw [List.append_nil]
  rfl

theorem runLogged_lift {α : Type} (x : StateM Cluster α) :
    runLogged (monadLift x) log c = (((x.run c).1, log), (x.run c).2) := rfl

/-- A store that does what a cluster does, and adds to a log what is noted of it. -/
structure Notes (s : Store (StateT (List WriteRequest) (StateM Cluster)))
    (note : Cluster → Target → List WriteRequest) : Prop where
  reads : s.ReadsThrough store
  execute : ∀ c t log, runLogged (s.execute t t.plan) log c =
    (((c.execute t).1, log ++ note c t), (c.execute t).2)

namespace Notes

theorem remediate (h : Notes s note) (c : Cluster) (t : Target) (log : List WriteRequest) :
    runLogged (s.remediate t) log c =
      (((c.execute t).1.map fun _ => t.plan, log ++ note c t), (c.execute t).2) := by
  rw [Store.remediate, runLogged_bind, h.execute]
  rfl

theorem remediateAll (h : Notes s note) (c : Cluster) (survey : List (Target × Verdict))
    (log : List WriteRequest) :
    runLogged (s.remediateAll survey) log c =
      (((c.remediateAll (unhealthyTargets survey)).1, log ++ c.noted note (unhealthyTargets survey)),
        (c.remediateAll (unhealthyTargets survey)).2) := by
  induction survey generalizing c log with
  | nil =>
    rw [unhealthyTargets_nil, noted, List.append_nil]
    rfl
  | cons e survey ih =>
    obtain ⟨t, v⟩ := e
    cases healthy : v.isUnhealthy with
    | false =>
      rw [unhealthyTargets_cons_healthy healthy, Store.remediateAll, if_neg (by simp [healthy]), ih]
    | true =>
      rw [unhealthyTargets_cons_unhealthy healthy, Store.remediateAll, if_pos healthy,
        runLogged_bind, h.remediate, noted]
      rcases result : c.execute t with ⟨f | u, c₁⟩
      · rw [remediateAll_cons_of_error result]
        rfl
      · rw [remediateAll_cons_of_ok result]
        change runLogged (s.remediateAll survey >>= _) (log ++ note c t) c₁ = _
        rw [runLogged_bind, ih, ← List.append_assoc]
        rfl

theorem passOf (h : Notes s note) (c : Cluster) (policy : Policy) (now : Instant)
    (log : List WriteRequest) :
    runLogged (s.passOf policy now) log c =
      let survey := return some (← c.surveyOf policy now)
      (((c.act survey).1, log ++ c.actNoted note survey), (c.act survey).2) := by
  rw [Store.passOf, runLogged_bind, h.reads.resolve, runLogged_lift, run_resolve, surveyOf]
  cases c.targetsOf policy with
  | error f => exact runLogged_pure _
  | ok targets =>
    dsimp only [bind, Except.bind]
    cases Target.evaluateAll policy.spec.rules now targets with
    | error f => exact runLogged_pure _
    | ok survey =>
      change runLogged (s.remediateAll survey >>= _) log c = _
      rw [runLogged_bind, h.remediateAll]
      rfl

theorem pass (h : Notes s note) (c : Cluster) (k : Key) (now : Instant)
    (log : List WriteRequest) :
    runLogged (s.pass k now) log c =
      (((c.pass k now).1, log ++ c.actNoted note (c.survey k now)), (c.pass k now).2) := by
  have read : runLogged (monadLift (store.policies.get k)) log c =
    ((c.policies.get k, log), c) := rfl
  rw [pass_eq, survey, Store.pass, runLogged_bind, h.reads.policies, read]
  cases c.policies.get k with
  | error f => exact runLogged_pure _
  | ok found =>
    cases found with
    | none => exact runLogged_pure _
    | some policy =>
      dsimp only [bind, Except.bind]
      cases policy.spec.validate with
      | error f => exact runLogged_pure _
      | ok u => exact h.passOf c policy now log

end Notes

/-- What holds of a log and a cluster in front of the remediation of targets, and is kept by that of
each, holds after. -/
theorem noted_induction {P : List WriteRequest → Cluster → Prop} {ts : List Target}
    (step : ∀ t ∈ ts, ∀ {log c₁ r c₂}, P log c₁ → c₁.execute t = (r, c₂) →
      P (log ++ note c₁ t) c₂)
    (start : P log c) : P (log ++ c.noted note ts) (c.remediateAll ts).2 := by
  induction ts generalizing c log with
  | nil =>
    rw [noted, List.append_nil]
    exact start
  | cons t ts ih =>
    rcases result : c.execute t with ⟨f | u, c₁⟩
    · rw [remediateAll_cons_of_error result, noted, result]
      exact step t List.mem_cons_self start result
    · rw [remediateAll_cons_of_ok result, noted, result, ← List.append_assoc]
      exact ih (fun t' mem => step t' (List.mem_cons_of_mem t mem))
        (step t List.mem_cons_self start result)

theorem actNoted_induction {P : List WriteRequest → Cluster → Prop} {k : Key} {now : Instant}
    (step : ∀ survey, c.survey k now = .ok (some survey) → ∀ t ∈ unhealthyTargets survey,
      ∀ {log c₁ r c₂}, P log c₁ → c₁.execute t = (r, c₂) → P (log ++ note c₁ t) c₂)
    (start : P log c) : P (log ++ c.actNoted note (c.survey k now)) (c.pass k now).2 := by
  rw [pass_eq]
  rcases surveyed : c.survey k now with f | _ | survey
  · rw [actNoted, List.append_nil]
    · exact start
    · simp
  · rw [actNoted, List.append_nil]
    · exact start
    · simp
  · exact noted_induction (step survey surveyed) start

theorem notes_logged : Notes store.logged fun _ t => t.writes where
  reads := ⟨fun _ => rfl, fun _ _ => rfl, fun _ => rfl⟩
  execute c t log := by
    cases t.call with
    | idle notReplace idle =>
      rw [execute, Store.execute_of_idle _ notReplace idle, Store.execute_of_idle _ notReplace idle,
        Target.writes_of_idle notReplace idle]
      exact runLogged_pure _
    | reboot n node =>
      have written : runLogged (store.logged.nodes.replace n.requestReboot) log c =
        (((c.nodes.replace n.requestReboot).1, log ++ [.replace Node.kind (key n)]),
          { c with nodes := (c.nodes.replace n.requestReboot).2 }) := rfl
      rw [execute_reboot c node, Store.execute_of_node _ node, runLogged_bind, written,
        Target.writes_of_node node]
      rcases c.nodes.replace n.requestReboot with ⟨f | b, nodes⟩
      · rfl
      · rfl
    | replace plan =>
      have deleted : runLogged (store.logged.machines.delete t.key) log c =
        (((c.machines.delete t.key).1, log ++ [.delete Machine.kind t.key]),
          { c with machines := (c.machines.delete t.key).2 }) := rfl
      rw [execute_replace c plan, plan, Store.execute, Store.removeMachine, runLogged_bind, deleted,
        Target.writes_of_replace plan]
      rcases c.machines.delete t.key with ⟨f | u, machines⟩
      · cases f <;> rfl
      · rfl

theorem attempts_of_failed {c₁ c' : Cluster} {before : List Target} {t : Target} {f : Failure}
    (h : Remediates c before c₁) (failed : c₁.remediate t = (.error f, c')) (after : List Target) :
    c.attempts (before ++ t :: after) = (before ++ [t]).flatMap Target.writes := by
  rw [attempts]
  induction h with
  | nil => simp [noted, remediate_error_iff.mp failed]
  | cons first _ ih => simp [noted, (remediate_ok_iff.mp first).2, ih failed]

/-- A pass over a store that logs writes does the same, and tries the writes that its survey calls
for. -/
theorem logged_pass (c : Cluster) (k : Key) (now : Instant) :
    runLogged (store.logged.pass k now) log c =
      (((c.pass k now).1, log ++ c.actAttempts (c.survey k now)), (c.pass k now).2) :=
  notes_logged.pass c k now log

end Cluster

end FleetHealth
