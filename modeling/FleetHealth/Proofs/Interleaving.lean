import FleetHealth.Proofs.Frame
import FleetHealth.Proofs.Store.Version
/-!
Passes and other clients at work on a cluster at the same time. A pass lists the machines of its
policy, looks up the node of each, and remediates targets; between any two of these moves, others
may replace machines and nodes. So a target is made of a machine as a listing found it and of a node
as a later lookup did, neither of which has to be what the cluster has by now.
-/

namespace FleetHealth

open ClusterObject

inductive Edit where
  | machine (machine : Machine)
  | node (node : Node)

inductive Move where
  | list (policy : Policy)
  | look (i : Nat)
  | remediate (i : Nat)
  | edit (edit : Edit)

namespace Cluster

def edit (c : Cluster) : Edit → Cluster
  | .machine machine => { c with machines := (c.machines.replace machine).2 }
  | .node n => { c with nodes := (c.nodes.replace n).2 }

/-- The machines that a pass of a policy lists; none if it fails at that. -/
def listing (c : Cluster) (policy : Policy) : List Machine :=
  match policy.spec.machineSelector with
  | .error _ => []
  | .ok selector => (c.machines.list policy.metadata.ns selector).toOption.getD []

theorem Sound.edit {c : Cluster} (sound : c.Sound) (e : Edit) : (c.edit e).Sound := by
  cases e with
  | machine machine => exact ⟨sound.machines.replace machine, sound.nodes⟩
  | node n => exact ⟨sound.machines, sound.nodes.replace n⟩

theorem stored_of_mem_listing {c : Cluster} {policy : Policy} {machine : Machine} (sound : c.Sound)
    (h : machine ∈ c.listing policy) :
    c.machines.objects.get? (key machine) = some machine := by
  rw [listing] at h
  split at h
  · cases h
  · rw [Collection.list] at h
    split at h
    · cases h
    · obtain ⟨k, stored, -, -⟩ := Collection.mem_selected.mp h
      rw [sound.machines.keyed stored, stored]

end Cluster

structure Scene where
  cluster : Cluster
  listed : List Machine
  targets : List Target

namespace Scene

def start (cluster : Cluster) : Scene := { cluster, listed := [], targets := [] }

/-- The target that one of the machines that have been listed is by now, unless its node cannot be
read. -/
def lookUp (s : Scene) (i : Nat) : Option Target :=
  s.listed[i]?.bind fun machine => ((Cluster.store.target machine).run s.cluster).1.toOption

def step (s : Scene) : Move → Scene
  | .list policy => { s with listed := s.listed ++ s.cluster.listing policy }
  | .look i => { s with targets := s.targets ++ (s.lookUp i).toList }
  | .remediate i => match s.targets[i]? with
    | none => s
    | some t => { s with cluster := (s.cluster.remediate t).2 }
  | .edit e => { s with cluster := s.cluster.edit e }

def run (s : Scene) (moves : List Move) : Scene := moves.foldl step s

@[simp] theorem run_nil (s : Scene) : s.run [] = s := rfl

@[simp] theorem run_cons (s : Scene) (move : Move) (moves : List Move) :
    s.run (move :: moves) = (s.step move).run moves := rfl

theorem run_append (s : Scene) (before after : List Move) :
    s.run (before ++ after) = (s.run before).run after :=
  List.foldl_append

/-- The scene at a time, which is the number of moves that have been made by then. -/
def moment (c : Cluster) (moves : List Move) (time : Nat) : Scene := (start c).run (moves.take time)

variable {s : Scene} {moves : List Move} {c : Cluster} {t : Target} {time : Nat}

theorem moment_succ {move : Move} (h : moves[time]? = some move) :
    moment c moves (time + 1) = (moment c moves time).step move := by
  rw [moment, List.take_add_one, run_append, h]
  rfl

theorem moment_succ_of_none (h : moves[time]? = none) :
    moment c moves (time + 1) = moment c moves time := by
  rw [moment, List.take_add_one, h, Option.toList_none, List.append_nil, ← moment]

theorem moment_induction {P : Nat → Scene → Prop} {earlier : Nat} (le : earlier ≤ time)
    (first : P earlier (moment c moves earlier)) (rest : ∀ {now s}, P now s → P (now + 1) s)
    (next : ∀ {now} move, earlier ≤ now → now < time → moves[now]? = some move →
      P now (moment c moves now) → P (now + 1) ((moment c moves now).step move)) :
    P time (moment c moves time) := by
  induction le with
  | refl => exact first
  | @step time le ih =>
    have before := ih fun move ge lt => next move ge (Nat.lt_succ_of_lt lt)
    cases move : moves[time]? with
    | some move' =>
      rw [moment_succ move]
      exact next move' le (Nat.lt_succ_self time) move before
    | none =>
      rw [moment_succ_of_none move]
      exact rest before

theorem step_remediate {i : Nat} (h : s.targets[i]? = some t) :
    s.step (.remediate i) = { s with cluster := (s.cluster.remediate t).2 } := by
  rw [step, h]

theorem remediated_of_step (s : Scene) (i : Nat) :
    s.step (.remediate i) = s ∨ ∃ t ∈ s.targets, ∃ r c', s.cluster.remediate t = (r, c') ∧
      s.step (.remediate i) = { s with cluster := c' } := by
  cases target : s.targets[i]? with
  | none => exact .inl (by rw [step, target])
  | some t => exact .inr ⟨t, List.mem_of_getElem? target, _, _, rfl, step_remediate target⟩

theorem listed_remediate (s : Scene) (i : Nat) : (s.step (.remediate i)).listed = s.listed := by
  rw [step]
  cases s.targets[i]? <;> rfl

theorem targets_remediate (s : Scene) (i : Nat) : (s.step (.remediate i)).targets = s.targets := by
  rw [step]
  cases s.targets[i]? <;> rfl

theorem lookUp_eq_some {i : Nat} (h : s.lookUp i = some t) :
    t.machine ∈ s.listed ∧ t = s.cluster.targetOf t.machine := by
  obtain ⟨machine, listed, read⟩ := Option.bind_eq_some_iff.mp h
  rw [Cluster.run_target] at read
  cases result : s.cluster.readTarget machine with
  | error f => simp [result, Except.toOption] at read
  | ok t' =>
    rw [result] at read
    cases read
    have eq := Cluster.readTarget_ok result
    rw [eq]
    exact ⟨List.mem_of_getElem? listed, rfl⟩

theorem sound_step (sound : s.cluster.Sound) (move : Move) : (s.step move).cluster.Sound := by
  cases move with
  | list policy => exact sound
  | look i => exact sound
  | edit e => exact sound.edit e
  | remediate i =>
    rcases s.remediated_of_step i with eq | ⟨t, -, r, c', result, eq⟩
    · rw [eq]
      exact sound
    · rw [eq]
      exact sound.execute (Cluster.execute_of_remediate result)

theorem sound_moment (sound : c.Sound) (moves : List Move) (time : Nat) :
    (moment c moves time).cluster.Sound :=
  moment_induction (P := fun _ s => s.cluster.Sound) (Nat.zero_le time) sound (fun kept => kept)
    fun move _ _ _ kept => sound_step kept move

theorem mem_listed_step {move : Move} {machine : Machine} (mem : machine ∈ (s.step move).listed) :
    machine ∈ s.listed ∨ ∃ policy, machine ∈ s.cluster.listing policy := by
  cases move with
  | list policy =>
    cases List.mem_append.mp mem with
    | inl before => exact .inl before
    | inr listed => exact .inr ⟨policy, listed⟩
  | look i => exact .inl mem
  | edit e => exact .inl mem
  | remediate i => exact .inl (listed_remediate s i ▸ mem)

theorem mem_targets_step {move : Move} (mem : t ∈ (s.step move).targets) :
    t ∈ s.targets ∨ t.machine ∈ s.listed ∧ t = s.cluster.targetOf t.machine := by
  cases move with
  | list policy => exact .inl mem
  | look i =>
    cases List.mem_append.mp mem with
    | inl before => exact .inl before
    | inr found => exact .inr (lookUp_eq_some (Option.mem_toList.mp found))
  | edit e => exact .inl mem
  | remediate i => exact .inl (targets_remediate s i ▸ mem)

theorem stored_of_mem_listed (sound : c.Sound) {machine : Machine}
    (mem : machine ∈ (moment c moves time).listed) :
    ∃ listing ≤ time,
      (moment c moves listing).cluster.machines.objects.get? (key machine) = some machine := by
  refine moment_induction (P := fun time s => machine ∈ s.listed → ∃ listing ≤ time,
    (moment c moves listing).cluster.machines.objects.get? (key machine) = some machine)
    (Nat.zero_le time) ?_ ?_ ?_ mem
  · intro mem
    cases mem
  · intro time s earlier mem
    obtain ⟨listing, le, stored⟩ := earlier mem
    exact ⟨listing, Nat.le_succ_of_le le, stored⟩
  · intro time move _ _ _ earlier mem
    cases mem_listed_step mem with
    | inl before =>
      obtain ⟨listing, le, stored⟩ := earlier before
      exact ⟨listing, Nat.le_succ_of_le le, stored⟩
    | inr listed =>
      obtain ⟨policy, listed⟩ := listed
      exact ⟨time, Nat.le_succ time,
        Cluster.stored_of_mem_listing (sound_moment sound moves time) listed⟩

theorem resolved_of_mem_targets (sound : c.Sound) (mem : t ∈ (moment c moves time).targets) :
    ∃ lookup ≤ time, ∃ listing ≤ lookup,
      (moment c moves listing).cluster.machines.objects.get? t.key = some t.machine ∧
      t = (moment c moves lookup).cluster.targetOf t.machine := by
  refine moment_induction (P := fun time s => t ∈ s.targets → ∃ lookup ≤ time, ∃ listing ≤ lookup,
    (moment c moves listing).cluster.machines.objects.get? t.key = some t.machine ∧
      t = (moment c moves lookup).cluster.targetOf t.machine) (Nat.zero_le time) ?_ ?_ ?_ mem
  · intro mem
    cases mem
  · intro time s earlier mem
    obtain ⟨lookup, le, found⟩ := earlier mem
    exact ⟨lookup, Nat.le_succ_of_le le, found⟩
  · intro time move _ _ _ earlier mem
    cases mem_targets_step mem with
    | inl before =>
      obtain ⟨lookup, le, found⟩ := earlier before
      exact ⟨lookup, Nat.le_succ_of_le le, found⟩
    | inr found =>
      obtain ⟨listed, seen⟩ := found
      obtain ⟨listing, sooner, stored⟩ := stored_of_mem_listed sound listed
      exact ⟨time, Nat.le_succ time, listing, sooner, stored, seen⟩

def resolution (policy : Policy) (count : Nat) : List Move :=
  .list policy :: (List.range count).map .look

theorem lookUp_eq {ts : List Target} (h : s.listed.map s.cluster.readTarget = ts.map .ok)
    (i : Nat) : s.lookUp i = ts[i]? := by
  have read := congrArg (·[i]?.bind Except.toOption) h
  simpa [lookUp, Cluster.run_target, Except.toOption, Option.bind_map, Function.comp_def] using read

theorem run_looks {ts : List Target} (h : s.listed.map s.cluster.readTarget = ts.map .ok)
    (count : Nat) :
    s.run ((List.range count).map .look) = { s with targets := s.targets ++ ts.take count } := by
  induction count with
  | zero => simp
  | succ count ih =>
    have found := lookUp_eq (s := { s with targets := s.targets ++ ts.take count }) h count
    rw [List.range_succ, List.map_append, run_append, ih, List.map_singleton, run_cons, run_nil,
      step, found, List.append_assoc, List.take_add_one]

theorem run_resolution {policy : Policy} {ts : List Target}
    (h : (Cluster.store.resolve policy).run c = (.ok ts, c)) :
    ((start c).run (resolution policy ts.length)).cluster = c ∧
      ((start c).run (resolution policy ts.length)).targets = ts := by
  rw [Cluster.run_resolve] at h
  obtain ⟨selector, checked, resolved⟩ := bind_eq_ok (Prod.mk.inj h).1
  obtain ⟨machines, listed, resolved⟩ := bind_eq_ok resolved
  have listing : c.listing policy = machines := by
    simp [Cluster.listing, checked, listed, Except.toOption]
  have read : machines.map c.readTarget = ts.map .ok := by
    have each : List.Forall₂ (· = ·) (machines.map c.readTarget) (ts.map .ok) :=
      List.forall₂_map_left_iff.mpr (List.forall₂_map_right_iff.mpr (mapM_eq_ok resolved))
    rw [List.forall₂_eq_eq_eq] at each
    exact each
  have looks := run_looks (s := { cluster := c, listed := machines, targets := [] }) read ts.length
  rw [resolution, run_cons, step, start, listing, List.nil_append, looks, List.take_length]
  exact ⟨rfl, rfl⟩

theorem exists_run_eq_remediateAll (ts : List Target) (s : Scene)
    (resolved : ∀ t ∈ ts, t ∈ s.targets) :
    ∃ moves, (∀ move ∈ moves, ∃ i, move = .remediate i) ∧
      (s.run moves).cluster = (s.cluster.remediateAll ts).2 := by
  induction ts generalizing s with
  | nil => exact ⟨[], by simp, rfl⟩
  | cons t ts ih =>
    obtain ⟨i, target⟩ := List.mem_iff_getElem?.mp (resolved t List.mem_cons_self)
    have first : s.step (.remediate i) = { s with cluster := (s.cluster.execute t).2 } :=
      step_remediate target
    rcases result : s.cluster.execute t with ⟨f | u, c₁⟩
    · refine ⟨[.remediate i], by simp, ?_⟩
      rw [Cluster.remediateAll_cons_of_error result, run_cons, run_nil, first, result]
    · obtain ⟨moves, only, eq⟩ := ih { s with cluster := c₁ }
        fun t' mem => resolved t' (List.mem_cons_of_mem t mem)
      refine ⟨.remediate i :: moves, by simpa using only, ?_⟩
      rw [Cluster.remediateAll_cons_of_ok result, run_cons, first, result, eq]

/-- What a pass does, some moves of one pass and of nobody else do. -/
theorem exists_run_eq_pass (c : Cluster) (k : Key) (now : Instant) :
    ∃ moves, (∀ e, .edit e ∉ moves) ∧ ((start c).run moves).cluster = (c.pass k now).2 := by
  rw [Cluster.pass_eq]
  rcases surveyed : c.survey k now with f | _ | survey
  · exact ⟨[], by simp, rfl⟩
  · exact ⟨[], by simp, rfl⟩
  · obtain ⟨policy, -, -, surveyed⟩ := Cluster.survey_ok surveyed
    have resolved : (Cluster.store.resolve policy).run c = (.ok (survey.map Prod.fst), c) := by
      rw [Cluster.run_resolve, Cluster.targetsOf_of_surveyOf surveyed]
    obtain ⟨cluster, targets⟩ := run_resolution resolved
    obtain ⟨moves, only, eq⟩ := exists_run_eq_remediateAll (unhealthyTargets survey)
      ((start c).run (resolution policy (survey.map Prod.fst).length)) fun t mem => by
        rw [targets]
        exact (unhealthyTargets_sublist survey).subset mem
    refine ⟨resolution policy (survey.map Prod.fst).length ++ moves, ?_, ?_⟩
    · intro e mem
      cases List.mem_append.mp mem with
      | inl mem => simp [resolution] at mem
      | inr mem =>
        obtain ⟨i, eq⟩ := only _ mem
        cases eq
    · rw [run_append, eq, cluster]
      rfl

end Scene

end FleetHealth
