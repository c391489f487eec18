import FleetHealth.Object.Machine
import FleetHealth.Object.MachineSet
import FleetHealth.Object.Policy
import FleetHealth.Proofs.Object.Metadata

namespace FleetHealth

open Json RawJson

theorem ClusterObject.read_manifest {α : Type} {read : RawJson → Option α} {kind : ResourceKind}
    {parts : List (String × Option Json)} {a : α}
    (distinct : ("apiVersion" :: "kind" :: parts.map Prod.fst).Nodup)
    (reread : ∀ {fields : RawJson.Fields}, (∀ e ∈ parts, fields.Holds e.1 e.2) →
      read (obj fields) = some a) : read (ofJson (manifest kind parts)) = some a := by
  have written : ofJson (manifest kind parts) = obj (recordFields
      ([("apiVersion", some (.str kind.apiVersion)), ("kind", some (.str kind.kind))] ++ parts)) :=
    rfl
  rw [written]
  apply reread
  intro e mem
  refine holds_recordFields ?_ e (List.mem_append_right _ mem)
  exact distinct

theorem NodeReference.stable : Stable read? write := by
  refine Stable.of_record (fun _ => by simp) ?_
  intro j r got fields holds
  simp only [read?, Option.bind_eq_bind, Option.bind_eq_some_iff, Option.pure_def,
    Option.some.injEq] at got
  obtain ⟨source, -, name, gotName, kind, gotKind, uid, gotUid, apiVersion, gotVersion, rfl⟩ := got
  have single := isSingle_of_holds holds
  simp only [List.forall_mem_cons] at holds
  obtain ⟨nameHeld, kindHeld, uidHeld, versionHeld, -⟩ := holds
  rw [read?, record?_obj]
  · simp only [Option.bind_eq_bind, Option.bind_some, Option.pure_def,
      stable_str.required gotName nameHeld, stable_str.optional gotKind kindHeld,
      stable_str.optional gotUid uidHeld, stable_str.optional gotVersion versionHeld]
  · exact single

theorem MachineStatus.stable : Stable read? write := by
  refine Stable.of_record (fun _ => by simp) ?_
  intro j s got fields holds
  simp only [read?, Option.bind_eq_bind, Option.bind_eq_some_iff, Option.pure_def,
    Option.some.injEq] at got
  obtain ⟨source, -, node, gotNode, updated, gotUpdated, phase, gotPhase, reason, gotReason,
    message, gotMessage, rfl⟩ := got
  have single := isSingle_of_holds holds
  simp only [List.forall_mem_cons] at holds
  obtain ⟨nodeHeld, updatedHeld, phaseHeld, reasonHeld, messageHeld, -⟩ := holds
  rw [read?, record?_obj]
  · simp only [Option.bind_eq_bind, Option.bind_some, Option.pure_def,
      NodeReference.stable.optional gotNode nodeHeld,
      stable_instant.optional gotUpdated updatedHeld, stable_str.optional gotPhase phaseHeld,
      stable_str.optional gotReason reasonHeld, stable_str.optional gotMessage messageHeld]
  · exact single

namespace Machine

theorem stable_spec : Stable readSpec? fun spec : Option String × Option Json =>
    record [("providerID", spec.1.map .str), ("providerSpec", spec.2)] := by
  refine Stable.of_record (fun _ => by simp) ?_
  intro j spec got fields holds
  simp only [readSpec?, Option.bind_eq_bind, Option.bind_eq_some_iff, Option.pure_def,
    Option.some.injEq] at got
  obtain ⟨source, -, providerID, gotID, providerSpec, gotSpec, rfl⟩ := got
  have single := isSingle_of_holds holds
  simp only [List.forall_mem_cons] at holds
  obtain ⟨idHeld, specHeld, -⟩ := holds
  have specHeld : fields.Holds "providerSpec" (providerSpec.map id) := by
    simpa using specHeld
  rw [readSpec?, record?_obj]
  · simp only [Option.bind_eq_bind, Option.bind_some, Option.pure_def,
      stable_str.optional gotID idHeld, stable_value.optional gotSpec specHeld]
  · exact single

theorem read?_write {j : RawJson} {m : Machine} (got : read? j = some m) :
    read? (ofJson m.write) = some { m with metadata := m.metadata.inWholeSeconds } := by
  simp only [read?, Option.bind_eq_bind, Option.bind_eq_some_iff, Option.pure_def,
    Option.some.injEq, Prod.exists] at got
  obtain ⟨source, -, metadata, gotMetadata, providerID, providerSpec, gotSpec, status, gotStatus,
    rfl⟩ := got
  refine ClusterObject.read_manifest (by simp) ?_
  intro fields holds
  have single := isSingle_of_holds holds
  simp only [List.forall_mem_cons] at holds
  obtain ⟨metadataHeld, specHeld, statusHeld, -⟩ := holds
  rw [read?, record?_obj]
  · simp only [Option.bind_eq_bind, Option.bind_some, Option.pure_def,
      Metadata.required_reread gotMetadata metadataHeld, stable_spec.required gotSpec specHeld,
      MachineStatus.stable.optional gotStatus statusHeld]
  · exact single

end Machine

theorem MachineSetStatus.stable : Stable read? write := by
  refine Stable.of_record (fun _ => by simp) ?_
  intro j s got fields holds
  simp only [read?, Option.bind_eq_bind, Option.bind_eq_some_iff, Option.pure_def,
    Option.some.injEq] at got
  obtain ⟨source, -, replicas, gotReplicas, labeled, gotLabeled, ready, gotReady, available,
    gotAvailable, generation, gotGeneration, reason, gotReason, message, gotMessage, rfl⟩ := got
  have single := isSingle_of_holds holds
  simp only [List.forall_mem_cons] at holds
  obtain ⟨replicasHeld, labeledHeld, readyHeld, availableHeld, generationHeld, reasonHeld,
    messageHeld, -⟩ := holds
  have zero : int32? (ofJson (.int 0)) = some 0 := rfl
  rw [read?, record?_obj]
  · simp only [Option.bind_eq_bind, Option.bind_some, Option.pure_def,
      stable_int32.defaulted zero gotReplicas replicasHeld,
      stable_int32.defaulted zero gotLabeled labeledHeld,
      stable_int32.defaulted zero gotReady readyHeld,
      stable_int32.defaulted zero gotAvailable availableHeld,
      stable_int64.optional gotGeneration generationHeld,
      stable_str.optional gotReason reasonHeld, stable_str.optional gotMessage messageHeld]
  · exact single

namespace MachineSet

section Spec

variable {metadata : Metadata} {status : Option MachineSetStatus} {j : RawJson} {s : MachineSet}

theorem stable_spec : Stable (readSpec? metadata status) writeSpec := by
  refine Stable.of_record (fun _ => by simp) ?_
  intro j s got fields holds
  simp only [readSpec?, Option.bind_eq_bind, Option.bind_eq_some_iff, Option.pure_def,
    Option.some.injEq] at got
  obtain ⟨source, -, replicas, gotReplicas, seconds, gotSeconds, deletePolicy, gotPolicy, selector,
    gotSelector, template, gotTemplate, rfl⟩ := got
  have single := isSingle_of_holds holds
  simp only [List.forall_mem_cons] at holds
  obtain ⟨replicasHeld, secondsHeld, policyHeld, selectorHeld, templateHeld, -⟩ := holds
  have templateHeld : fields.Holds "template" (template.map id) := by
    simpa using templateHeld
  have blank : LabelSelector.read? (ofJson (LabelSelector.write default)) = some default := rfl
  rw [readSpec?, record?_obj]
  · simp only [Option.bind_eq_bind, Option.bind_some, Option.pure_def,
      stable_int32.optional gotReplicas replicasHeld, stable_int32.optional gotSeconds secondsHeld,
      stable_str.optional gotPolicy policyHeld,
      LabelSelector.stable.defaulted blank gotSelector selectorHeld,
      stable_value.optional gotTemplate templateHeld]
  · exact single

theorem readSpec?_eq_some (got : readSpec? metadata status j = some s) :
    s.metadata = metadata ∧ s.status = status ∧
      ∀ other, readSpec? other status j = some { s with metadata := other } := by
  simp only [readSpec?, Option.bind_eq_bind, Option.bind_eq_some_iff, Option.pure_def,
    Option.some.injEq] at got
  obtain ⟨source, gotSource, replicas, gotReplicas, seconds, gotSeconds, deletePolicy, gotPolicy,
    selector, gotSelector, template, gotTemplate, rfl⟩ := got
  refine ⟨rfl, rfl, ?_⟩
  intro other
  simp only [readSpec?, Option.bind_eq_bind, Option.bind_some, Option.pure_def, gotSource,
    gotReplicas, gotSeconds, gotPolicy, gotSelector, gotTemplate]

end Spec

theorem read?_write {j : RawJson} {s : MachineSet} (got : read? j = some s) :
    read? (ofJson s.write) = some { s with metadata := s.metadata.inWholeSeconds } := by
  simp only [read?, Option.bind_eq_bind, Option.bind_eq_some_iff] at got
  obtain ⟨source, -, metadata, gotMetadata, status, gotStatus, gotSpec⟩ := got
  obtain ⟨spec, gotSpec⟩ := Fields.exists_of_required gotSpec
  obtain ⟨rfl, rfl, -⟩ := readSpec?_eq_some gotSpec
  obtain ⟨-, -, again⟩ := readSpec?_eq_some (stable_spec.reread gotSpec)
  refine ClusterObject.read_manifest (by simp) ?_
  intro fields holds
  have single := isSingle_of_holds holds
  simp only [List.forall_mem_cons] at holds
  obtain ⟨metadataHeld, specHeld, statusHeld, -⟩ := holds
  rw [read?, record?_obj]
  · simp only [Option.bind_eq_bind, Option.bind_some,
      Metadata.required_reread gotMetadata metadataHeld,
      MachineSetStatus.stable.optional gotStatus statusHeld,
      Fields.required_of_holds specHeld (again s.metadata.inWholeSeconds)]
  · exact single

end MachineSet

def Rule.parts (r : Rule) : List (String × Option Json) := [
  ("type", some (.str r.conditionType)),
  ("status", some (.str r.status)),
  ("timeout", some (.str r.timeout))]

theorem Rule.stable : Stable read? write := by
  change Stable read? fun r => record r.parts
  refine Stable.of_record (fun _ => by simp [parts]) ?_
  intro j r got fields holds
  simp only [read?, Option.bind_eq_bind, Option.bind_eq_some_iff, Option.pure_def,
    Option.some.injEq] at got
  obtain ⟨source, -, conditionType, gotType, status, gotStatus, timeout, gotTimeout, rfl⟩ := got
  have single := isSingle_of_holds holds
  simp only [parts, List.forall_mem_cons] at holds
  obtain ⟨typeHeld, statusHeld, timeoutHeld, -⟩ := holds
  rw [read?, record?_obj]
  · simp only [Option.bind_eq_bind, Option.bind_some, Option.pure_def,
      stable_str.required gotType typeHeld, stable_str.required gotStatus statusHeld,
      stable_str.required gotTimeout timeoutHeld]
  · exact single

def PolicySpec.parts (s : PolicySpec) : List (String × Option Json) := [
  ("selector", some s.selector.write),
  ("unhealthyConditions", some (.arr (s.rules.map Rule.write)))]

theorem PolicySpec.stable : Stable read? write := by
  change Stable read? fun s => record s.parts
  refine Stable.of_record (fun _ => by simp [parts]) ?_
  intro j s got fields holds
  simp only [read?, Option.bind_eq_bind, Option.bind_eq_some_iff, Option.pure_def,
    Option.some.injEq] at got
  obtain ⟨source, -, selector, gotSelector, rules, gotRules, rfl⟩ := got
  have single := isSingle_of_holds holds
  simp only [parts, List.forall_mem_cons] at holds
  obtain ⟨selectorHeld, rulesHeld, -⟩ := holds
  have empty : list? Rule.read? (ofJson (.arr ([].map Rule.write))) = some [] := rfl
  rw [read?, record?_obj]
  · simp only [Option.bind_eq_bind, Option.bind_some, Option.pure_def,
      LabelSelector.stable.required gotSelector selectorHeld,
      Rule.stable.list.defaulted empty gotRules rulesHeld]
  · exact single

theorem Policy.read?_write {j : RawJson} {p : Policy} (got : read? j = some p) :
    read? (ofJson p.write) = some { p with metadata := p.metadata.inWholeSeconds } := by
  simp only [read?, Option.bind_eq_bind, Option.bind_eq_some_iff, Option.pure_def,
    Option.some.injEq] at got
  obtain ⟨source, -, metadata, gotMetadata, spec, gotSpec, rfl⟩ := got
  refine ClusterObject.read_manifest (by simp) ?_
  intro fields holds
  have single := isSingle_of_holds holds
  simp only [List.forall_mem_cons] at holds
  obtain ⟨metadataHeld, specHeld, -⟩ := holds
  rw [read?, record?_obj]
  · simp only [Option.bind_eq_bind, Option.bind_some, Option.pure_def,
      Metadata.required_reread gotMetadata metadataHeld,
      PolicySpec.stable.required gotSpec specHeld]
  · exact single

/-- What is read from a written object is that object with its metadata in whole seconds, and this
is written as the object was. -/
theorem manifest_round_trip :
    (∀ (j : RawJson) (p : Policy), Policy.read? j = some p →
      Policy.read? (ofJson p.write) = some { p with metadata := p.metadata.inWholeSeconds } ∧
      { p with metadata := p.metadata.inWholeSeconds }.write = p.write) ∧
    (∀ (j : RawJson) (m : Machine), Machine.read? j = some m →
      Machine.read? (ofJson m.write) = some { m with metadata := m.metadata.inWholeSeconds } ∧
      { m with metadata := m.metadata.inWholeSeconds }.write = m.write) ∧
    (∀ (j : RawJson) (s : MachineSet), MachineSet.read? j = some s →
      MachineSet.read? (ofJson s.write) = some { s with metadata := s.metadata.inWholeSeconds } ∧
      { s with metadata := s.metadata.inWholeSeconds }.write = s.write) := by
  refine ⟨fun j p got => ⟨Policy.read?_write got, ?_⟩, fun j m got => ⟨Machine.read?_write got, ?_⟩,
    fun j s got => ⟨MachineSet.read?_write got, ?_⟩⟩
  · simp only [Policy.write, Metadata.write_inWholeSeconds]
  · simp only [Machine.write, Metadata.write_inWholeSeconds]
  · simp only [MachineSet.write, MachineSet.writeSpec, Metadata.write_inWholeSeconds]

def sampleManifest : RawJson := obj [
  ("metadata", obj [("name", str "worker-1"), ("creationTimestamp", str "2024-05-01T12:00:00.9Z"),
    ("labels", null), ("generation", int 3), ("unknown", void)]),
  ("spec", obj [("providerSpec", obj [("b", int 1), ("a", null)]), ("replicas", int 3),
    ("selector", obj [("matchLabels", obj [("role", str "worker")])]),
    ("unhealthyConditions", arr [arr [str "Ready", str "False", str "5m"]])]),
  ("status", obj [("lastUpdated", str "2024-05-01t14:30:60.000000001+02:00"), ("phase", null),
    ("readyReplicas", int 2)])]

theorem sampleManifest_round_trip :
    (∃ p : Policy, Policy.read? sampleManifest = some p ∧
      p.spec.rules = [⟨"Ready", "False", "5m"⟩] ∧
      Policy.read? (ofJson p.write) = some { p with metadata := p.metadata.inWholeSeconds } ∧
      { p with metadata := p.metadata.inWholeSeconds }.write = p.write) ∧
    (∃ m : Machine, Machine.read? sampleManifest = some m ∧
      m.lastUpdated? = some ⟨1714566659, 1000000001, by decide⟩ ∧
      Machine.read? (ofJson m.write) = some { m with metadata := m.metadata.inWholeSeconds } ∧
      { m with metadata := m.metadata.inWholeSeconds }.write = m.write) ∧
    ∃ s : MachineSet, MachineSet.read? sampleManifest = some s ∧
      (s.replicaStatus.replicas, s.replicaStatus.readyReplicas) = (0, 2) ∧
      MachineSet.read? (ofJson s.write) = some { s with metadata := s.metadata.inWholeSeconds } ∧
      { s with metadata := s.metadata.inWholeSeconds }.write = s.write := by
  obtain ⟨ofPolicy, ofMachine, ofSet⟩ := manifest_round_trip
  refine ⟨?_, ?_, ?_⟩
  · have got := (Option.some_get (x := Policy.read? sampleManifest) (by decide)).symm
    exact ⟨_, got, by decide, ofPolicy _ _ got⟩
  · have got := (Option.some_get (x := Machine.read? sampleManifest) (by decide)).symm
    exact ⟨_, got, by decide, ofMachine _ _ got⟩
  · have got := (Option.some_get (x := MachineSet.read? sampleManifest) (by decide)).symm
    exact ⟨_, got, by decide, ofSet _ _ got⟩

end FleetHealth
