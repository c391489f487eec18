import FleetHealth.Proofs.Label.Selector
import FleetHealth.Proofs.Run

namespace FleetHealth

open ClusterObject

def Machine.Names (machine : Machine) (name : String) : Prop :=
  name ≠ "" ∧ ∃ status ref, machine.status = some status ∧ status.nodeRef = some ref ∧
    ref.name = name

theorem Machine.nodeName?_eq_some_iff {machine : Machine} {name : String} :
    machine.nodeName? = some name ↔ machine.Names name := by
  simp only [nodeName?, Names, bind, Option.bind_eq_some_iff, pure, Option.ite_none_left_eq_some,
    Option.some.injEq, String.isEmpty_iff]
  constructor
  · rintro ⟨status, reported, ref, referred, nonempty, rfl⟩
    exact ⟨nonempty, status, ref, reported, referred, rfl⟩
  · rintro ⟨nonempty, status, ref, reported, referred, rfl⟩
    exact ⟨status, reported, ref, referred, nonempty, rfl⟩

theorem PolicySpec.machineSelector_eq_ok_iff {spec : PolicySpec} {selector : Selector} :
    spec.machineSelector = .ok selector ↔ spec.selector.check = .ok selector :=
  mapError_eq_ok_iff

namespace Cluster

structure Matches (c : Cluster) (ns : String) (selector : LabelSelector) (machine : Machine) :
    Prop where
  stored : c.machines.objects.get? (key machine) = some machine
  inNamespace : machine.metadata.ns = some ns
  admitted : selector.Admits (machine.metadata.labels.getD .empty)

structure TellsNode (c : Cluster) (t : Target) : Prop where
  absent : t.node = .absent ↔ ¬∃ name, t.machine.Names name
  missing : ∀ name, t.node = .missing name ↔
    t.machine.Names name ∧ c.nodes.objects.get? (.clusterWide name) = none
  present : ∀ n, t.node = .present n ↔
    ∃ name, t.machine.Names name ∧ c.nodes.objects.get? (.clusterWide name) = some n

structure ResolvesTo (c : Cluster) (ns : String) (selector : LabelSelector)
    (targets : List Target) : Prop where
  ascending : (targets.map Target.key).Pairwise fun k k' => compare k k' = .lt
  machines : ∀ machine, machine ∈ targets.map Target.machine ↔ c.Matches ns selector machine
  nodes : ∀ t ∈ targets, c.TellsNode t

variable {c : Cluster} {policy : Policy} {ns : String} {selector : Selector} {machine : Machine}
  {machines : List Machine} {f : Failure}

theorem tellsNode_targetOf (c : Cluster) (machine : Machine) :
    c.TellsNode (c.targetOf machine) := by
  cases names : machine.nodeName? with
  | none =>
    have unnamed : ∀ name, ¬machine.Names name := by
      simp [← Machine.nodeName?_eq_some_iff, names]
    constructor <;> simp [targetOf, slotOf, names, unnamed]
  | some name =>
    have only : ∀ name', machine.Names name' ↔ name = name' := by
      simp [← Machine.nodeName?_eq_some_iff, names]
    cases found : c.nodes.objects.get? (.clusterWide name) with
    | none => constructor <;> simp [targetOf, slotOf, names, only, found]
    | some n => constructor <;> simp [targetOf, slotOf, names, only, found]

theorem readTarget_eq_error_iff : c.readTarget machine = .error f ↔
    ∃ name, machine.Names name ∧ c.nodes.get (.clusterWide name) = .error f := by
  simp only [readTarget, Collection.get, ← Machine.nodeName?_eq_some_iff]
  by_cases down : c.nodes.fault = .down
  · cases machine.nodeName? <;> simp [down]
  · simp [down]

/-- All reads fail alike, so that it does not matter which of them is the first to fail. -/
theorem mapM_readTarget_eq_error_iff : machines.mapM c.readTarget = .error f ↔
    ∃ machine ∈ machines, c.readTarget machine = .error f := by
  refine ⟨mapM_eq_error, ?_⟩
  rintro ⟨machine, mem, failed⟩
  cases read : machines.mapM c.readTarget with
  | ok targets =>
    obtain ⟨t, ok⟩ := exists_mapM_eq_ok_iff.mp ⟨targets, read⟩ machine mem
    rw [failed] at ok
    cases ok
  | error f' =>
    obtain ⟨machine', -, failed'⟩ := mapM_eq_error read
    rw [readTarget_error failed, readTarget_error failed']

theorem mem_selected_iff_matches (sound : c.Sound)
    (checked : policy.spec.machineSelector = .ok selector) :
    machine ∈ c.machines.selected (some ns) selector ↔
      c.Matches ns policy.spec.selector machine := by
  have admits := LabelSelector.selects_iff_admits
    (PolicySpec.machineSelector_eq_ok_iff.mp checked) machine.metadata.labels
  rw [Collection.mem_selected]
  constructor
  · rintro ⟨k, stored, inNamespace, selects⟩
    obtain rfl : key machine = k := sound.machines.keyed stored
    exact ⟨stored, inNamespace ns rfl, admits.mp selects⟩
  · rintro ⟨stored, inNamespace, admitted⟩
    refine ⟨key machine, stored, ?_, admits.mpr admitted⟩
    rintro n ⟨⟩
    exact inNamespace

theorem resolvesTo_selected (sound : c.Sound)
    (checked : policy.spec.machineSelector = .ok selector) :
    c.ResolvesTo ns policy.spec.selector
      ((c.machines.selected (some ns) selector).map c.targetOf) := by
  constructor
  · rw [List.map_map]
    exact sound.machines.ascending_selected (some ns) selector
  · intro machine
    have machines : (c.machines.selected (some ns) selector).map (Target.machine ∘ c.targetOf) =
        c.machines.selected (some ns) selector := List.map_id _
    rw [List.map_map, machines, mem_selected_iff_matches sound checked]
  · intro t mem
    obtain ⟨machine, -, rfl⟩ := List.mem_map.mp mem
    exact c.tellsNode_targetOf machine

theorem targetsOf_eq_error_iff (sound : c.Sound) (named : policy.metadata.ns = some ns)
    (checked : policy.spec.machineSelector = .ok selector) :
    c.targetsOf policy = .error f ↔ c.machines.list (some ns) selector = .error f ∨
      ∃ machine name, c.Matches ns policy.spec.selector machine ∧ machine.Names name ∧
        c.nodes.get (.clusterWide name) = .error f := by
  have read : (∃ machine ∈ c.machines.selected (some ns) selector,
        c.readTarget machine = .error f) ↔
      ∃ machine name, c.Matches ns policy.spec.selector machine ∧ machine.Names name ∧
        c.nodes.get (.clusterWide name) = .error f := by
    simp only [mem_selected_iff_matches sound checked, readTarget_eq_error_iff, exists_and_left]
  rw [← read, targetsOf, checked, named]
  change (c.machines.list (some ns) selector >>= _) = _ ↔ _
  cases listed : c.machines.list (some ns) selector with
  | ok machines =>
    obtain rfl := Collection.list_ok listed
    change List.mapM _ _ = _ ↔ _
    simp [mapM_readTarget_eq_error_iff]
  | error f' =>
    change Except.error f' = _ ↔ _
    rw [Except.error.injEq, Except.error.injEq]
    constructor
    · exact .inl
    · rintro (same | ⟨machine, -, failed⟩)
      · exact same
      · rw [Collection.list_error listed, readTarget_error failed]

/-- The targets of a policy of a namespace are exactly the machines that match, in the order of keys
and with what there is of their nodes. Resolution fails just when the listing of machines or the
read of one of the nodes does, and as that does. -/
theorem resolve_exact (reached : c.Reached) (named : policy.metadata.ns = some ns)
    (checked : policy.spec.machineSelector = .ok selector) :
    ((store.resolve policy).run c).2 = c ∧
      (∀ targets, ((store.resolve policy).run c).1 = .ok targets →
        c.ResolvesTo ns policy.spec.selector targets) ∧
      ∀ f, ((store.resolve policy).run c).1 = .error f ↔
        c.machines.list (some ns) selector = .error f ∨
          ∃ machine name, c.Matches ns policy.spec.selector machine ∧ machine.Names name ∧
            c.nodes.get (.clusterWide name) = .error f := by
  rw [run_resolve]
  refine ⟨rfl, ?_, fun f => targetsOf_eq_error_iff reached.sound named checked⟩
  intro targets resolved
  obtain ⟨selector', checked', rfl⟩ := targetsOf_ok resolved
  rw [named]
  exact resolvesTo_selected reached.sound checked'

/-- The policy for masters has one target. With nodes out of reach it has none, and its resolution
fails. -/
theorem masters_resolve_exact :
    (Sample.cluster.Reached ∧ (Sample.cluster.setFault .down .nodes).Reached ∧
      Sample.masters.metadata.ns = some "fleet" ∧
      Sample.masters.spec.machineSelector =
        .ok ⟨[.equals Machine.roleLabel Machine.masterRole]⟩) ∧
    Sample.cluster.ResolvesTo "fleet" Sample.masters.spec.selector
      [{ machine := Sample.master, node := .present (Sample.node "n0") }] ∧
    ((store.resolve Sample.masters).run (Sample.cluster.setFault .down .nodes)).1 =
      .error Collection.unavailable := by
  have reached : Sample.cluster.Reached := Sample.reached_cluster
  have reachedDown : (Sample.cluster.setFault .down .nodes).Reached :=
    { reached with nodes := .setFault .down reached.nodes }
  have named : Sample.masters.metadata.ns = some "fleet" := rfl
  have checked : Sample.masters.spec.machineSelector =
      .ok ⟨[.equals Machine.roleLabel Machine.masterRole]⟩ := by decide +kernel
  have resolved : Sample.cluster.ResolvesTo "fleet" Sample.masters.spec.selector
      [{ machine := Sample.master, node := .present (Sample.node "n0") }] := by
    apply (resolve_exact reached named checked).2.1
    decide +kernel
  refine ⟨⟨reached, reachedDown, named, checked⟩, resolved, ?_⟩
  obtain ⟨stored, inNamespace, admitted⟩ :=
    (resolved.machines Sample.master).mp List.mem_cons_self
  have names : Sample.master.Names "n0" := Machine.nodeName?_eq_some_iff.mp (by decide)
  rw [(resolve_exact reachedDown named checked).2.2]
  exact .inr ⟨Sample.master, "n0", ⟨stored, inNamespace, admitted⟩, names, rfl⟩

end Cluster

end FleetHealth
