import FleetHealth.Proofs.NodeEvent

namespace FleetHealth

open ClusterObject Text

def IsReference (s : String) : Prop :=
  s.toList.count '/' = 1 ∧
    ∃ before after, before ≠ [] ∧ after ≠ [] ∧ s.toList = before ++ '/' :: after

def IsReferencePart (s : String) : Prop := s ≠ "" ∧ '/' ∉ s.toList

instance (s : String) : Decidable (IsReferencePart s) := by unfold IsReferencePart; infer_instance

theorem not_mem_of_mem_splitAll {sep : Char} {cs part : List Char} (h : part ∈ splitAll sep cs) :
    sep ∉ part := by
  induction cs generalizing part with
  | nil => simp_all [splitAll]
  | cons c cs ih =>
    rw [splitAll] at h
    split at h
    · rcases List.mem_cons.mp h with rfl | h
      · exact List.not_mem_nil
      · exact ih h
    · rename_i other
      split at h
      · exact absurd ‹_› (splitAll_ne_nil sep cs)
      · rename_i first rest split
        rw [split] at ih
        rcases List.mem_cons.mp h with rfl | h
        · exact List.not_mem_cons_of_ne_of_not_mem (Ne.symm other) (ih List.mem_cons_self)
        · exact ih (List.mem_cons_of_mem first h)

theorem intercalate_pair (sep : Char) (first second : List Char) :
    [sep].intercalate [first, second] = first ++ sep :: second := by
  simp [List.intercalate]

namespace Key

def Referable (k : Key) : Prop := ∃ ns, k.ns = some ns ∧ IsReferencePart ns ∧ IsReferencePart k.name

theorem referable_namespaced {ns name : String} (nsPart : IsReferencePart ns)
    (namePart : IsReferencePart name) : (namespaced ns name).Referable :=
  ⟨ns, rfl, nsPart, namePart⟩

theorem toList_text_namespaced (ns name : String) :
    (namespaced ns name).text.toList = ns.toList ++ '/' :: name.toList := by
  simp [namespaced, text, String.toList_append]

theorem ofReference?_text {k : Key} (h : k.Referable) : ofReference? k.text = some k := by
  obtain ⟨_, name⟩ := k
  obtain ⟨ns, rfl, nsPart, namePart⟩ := h
  have fresh : ∀ part ∈ [ns.toList, name.toList], '/' ∉ part := by
    simp [nsPart.2, namePart.2]
  have parts := splitAll_intercalate (List.cons_ne_nil _ _) fresh
  rw [intercalate_pair] at parts
  have nonempty : ¬(ns.toList = [] ∨ name.toList = []) := by
    simp [nsPart.1, namePart.1]
  rw [← namespaced, ofReference?, toList_text_namespaced, parts]
  dsimp only
  rw [if_neg nonempty, String.ofList_toList, String.ofList_toList]

theorem ofReference?_eq_some_iff {s : String} {k : Key} :
    ofReference? s = some k ↔ k.Referable ∧ k.text = s := by
  constructor
  · intro h
    rw [ofReference?] at h
    split at h
    · rename_i ns name parts
      split at h
      · cases h
      · rename_i nonempty
        cases h
        rw [not_or] at nonempty
        have fresh : ∀ part ∈ [ns, name], '/' ∉ part := fun part mem =>
          not_mem_of_mem_splitAll (parts ▸ mem)
        refine ⟨referable_namespaced ⟨?_, ?_⟩ ⟨?_, ?_⟩, ?_⟩
        · simp [nonempty.1]
        · simpa using fresh ns
        · simp [nonempty.2]
        · simpa using fresh name
        · have joined := intercalate_splitAll '/' s.toList
          rw [parts, intercalate_pair] at joined
          apply String.toList_inj.mp
          rw [toList_text_namespaced, String.toList_ofList, String.toList_ofList, joined]
    · cases h
  · rintro ⟨referable, rfl⟩
    exact ofReference?_text referable

theorem isReference_text {k : Key} (h : k.Referable) : IsReference k.text := by
  obtain ⟨_, name⟩ := k
  obtain ⟨ns, rfl, nsPart, namePart⟩ := h
  rw [← namespaced, IsReference, toList_text_namespaced]
  refine ⟨?_, ns.toList, name.toList, ?_, ?_, rfl⟩
  · rw [List.count_append, List.count_cons_self, List.count_eq_zero.mpr nsPart.2,
      List.count_eq_zero.mpr namePart.2]
  · simpa using nsPart.1
  · simpa using namePart.1

theorem exists_referable_of_isReference {s : String} (h : IsReference s) :
    ∃ k : Key, k.Referable ∧ k.text = s := by
  obtain ⟨one, before, after, first, last, eq⟩ := h
  rw [eq, List.count_append, List.count_cons_self] at one
  have none_before : '/' ∉ before := List.count_eq_zero.mp (by omega)
  have none_after : '/' ∉ after := List.count_eq_zero.mp (by omega)
  refine ⟨namespaced (String.ofList before) (String.ofList after),
    referable_namespaced ⟨?_, ?_⟩ ⟨?_, ?_⟩, ?_⟩
  · simpa using first
  · simpa using none_before
  · simpa using last
  · simpa using none_after
  · apply String.toList_inj.mp
    rw [toList_text_namespaced, eq]
    simp

theorem exists_ofReference?_iff {s : String} : (∃ k, ofReference? s = some k) ↔ IsReference s := by
  simp only [ofReference?_eq_some_iff]
  constructor
  · rintro ⟨k, referable, rfl⟩
    exact isReference_text referable
  · exact exists_referable_of_isReference

theorem Referable.eq_of_text {k k' : Key} (h : k.Referable) (h' : k'.Referable)
    (same : k.text = k'.text) : k = k' := by
  have read := ofReference?_text h
  rw [same, ofReference?_text h'] at read
  exact (Option.some.inj read).symm

end Key

theorem Node.lookupKey?_eq_some_iff {n : Node} {k : Key} :
    n.lookupKey? = some k ↔
      k.Referable ∧ n.metadata.annotation? machineAnnotation = some k.text := by
  rw [lookupKey?, machineKey?]
  cases n.metadata.annotation? machineAnnotation with
  | none => simp
  | some s =>
    have read : Key.ofReference? s = some k ↔ k.Referable ∧ s = k.text := by
      rw [Key.ofReference?_eq_some_iff, eq_comm (a := s)]
    rw [Option.some.injEq, ← read]
    dsimp only
    cases Key.ofReference? s <;> simp

theorem Node.mem_routes {n : Node} {lookup : Key → Option Machine} {policies : List Policy}
    {p : Key} :
    p ∈ n.routes lookup policies ↔ ∃ k machine, n.lookupKey? = some k ∧
      lookup k = some machine ∧ p ∈ machine.routes policies := by
  rw [routes]
  cases found : n.lookupKey?.bind lookup with
  | none =>
    constructor
    · intro mem
      cases mem
    · rintro ⟨k, machine, named, known, -⟩
      rw [named, Option.bind_some, known] at found
      cases found
  | some machine =>
    obtain ⟨k, named, known⟩ := Option.bind_eq_some_iff.mp found
    constructor
    · intro mem
      exact ⟨k, machine, named, known, mem⟩
    · rintro ⟨k', machine', named', known', mem⟩
      rw [named', Option.bind_some, known'] at found
      cases found
      exact mem

/-- References are read exactly if they have one slash with something on either side of it, each is
how its key is written, and no two keys share one. So a node is routed by way of a machine if and
only if its annotation is how the key of that machine is written. -/
theorem reference_exact :
    (∀ s, (∃ k, Key.ofReference? s = some k) ↔ IsReference s) ∧
    (∀ s k, Key.ofReference? s = some k → k.ns.isSome = true ∧ k.text = s) ∧
    (∀ ns name, IsReferencePart ns → IsReferencePart name →
      Key.ofReference? (Key.namespaced ns name).text = some (Key.namespaced ns name)) ∧
    (∀ k k' : Key, k.Referable → k'.Referable → k.text = k'.text → k = k') ∧
    ∀ (n : Node) (lookup : Key → Option Machine) (policies : List Policy) (p : Key),
      p ∈ n.routes lookup policies ↔ ∃ k machine, k.Referable ∧
        n.metadata.annotation? Node.machineAnnotation = some k.text ∧
        lookup k = some machine ∧ p ∈ machine.routes policies := by
  refine ⟨fun s => Key.exists_ofReference?_iff, ?_, ?_, ?_, ?_⟩
  · intro s k read
    obtain ⟨⟨ns, inNamespace, -⟩, written⟩ := Key.ofReference?_eq_some_iff.mp read
    exact ⟨by rw [inNamespace]; rfl, written⟩
  · intro ns name nsPart namePart
    exact Key.ofReference?_text (Key.referable_namespaced nsPart namePart)
  · intro k k' referable referable' same
    exact referable.eq_of_text referable' same
  · intro n lookup policies p
    simp only [Node.mem_routes, Node.lookupKey?_eq_some_iff, and_assoc]

open Cluster in
/-- Texts with a slash missing or one too many are no references, and the node of the worker is
routed by way of the worker. -/
theorem worker_reference_exact :
    (IsReferencePart "fleet" ∧ IsReferencePart "worker" ∧
      Key.ofReference? "fleet/worker" = some (.namespaced "fleet" "worker")) ∧
    (∀ s ∈ ["", "worker", "/worker", "fleet/", "fleet//worker", "fleet/worker/", "a/b/c"],
      ¬IsReference s) ∧
    (∀ k : Key, k.Referable → k.text = "fleet/worker" → k = .namespaced "fleet" "worker") ∧
    (key Sample.policy ∈ (Sample.workerNode none).routes Sample.twoPolicies.machines.objects.get?
        [Sample.policy] ∧
      ∃ k machine, k.Referable ∧ "fleet/worker" = k.text ∧
        Sample.twoPolicies.machines.objects.get? k = some machine ∧
        key Sample.policy ∈ machine.routes [Sample.policy]) := by
  obtain ⟨read, written, writtenRead, inj, routed⟩ := reference_exact
  have parts : IsReferencePart "fleet" ∧ IsReferencePart "worker" := by decide
  have routes : key Sample.policy ∈ (Sample.workerNode none).routes
    Sample.twoPolicies.machines.objects.get? [Sample.policy] := by decide
  refine ⟨⟨parts.1, parts.2, writtenRead "fleet" "worker" parts.1 parts.2⟩, ?_, ?_, routes, ?_⟩
  · intro s mem reference
    obtain ⟨k, found⟩ := (read s).mpr reference
    have refused : ∀ s ∈ ["", "worker", "/worker", "fleet/", "fleet//worker", "fleet/worker/",
      "a/b/c"], Key.ofReference? s = none := by decide
    rw [refused s mem] at found
    cases found
  · intro k referable same
    exact inj k _ referable (Key.referable_namespaced parts.1 parts.2) same
  · obtain ⟨k, machine, referable, annotated, rest⟩ := (routed _ _ _ _).mp routes
    exact ⟨k, machine, referable, Option.some.inj annotated, rest⟩

end FleetHealth
