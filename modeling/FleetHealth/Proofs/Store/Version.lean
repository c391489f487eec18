import FleetHealth.Proofs.Store.Collection
/-!
Versions count the writes. As long as no version has come to the greatest number of 64 bits, what
writes put in place of an object has a greater version, so that an object that is found with the
version that it once had is still the same.
-/

namespace FleetHealth

open ClusterObject Text

theorem natBelow?_lt {bound n : Nat} {cs : List Char} (h : natBelow? bound cs = some n) :
    n < bound := by
  simp only [natBelow?, Option.ite_none_left_eq_some, Option.ite_none_right_eq_some,
    Option.some.injEq] at h
  obtain ⟨-, below, rfl⟩ := h
  exact below

namespace Collection

/-- A version read as a number; zero if it is none. -/
def serial (version : Option String) : Nat :=
  (version.bind fun v => natBelow? wordLimit v.toList).getD 0

theorem nextVersion_eq (version : Option String) :
    nextVersion version = toString ((serial version + 1) % wordLimit) := rfl

theorem serial_lt (version : Option String) : serial version < wordLimit := by
  rw [serial]
  cases read : version.bind fun v => natBelow? wordLimit v.toList with
  | none => decide
  | some n =>
    obtain ⟨v, -, value⟩ := Option.bind_eq_some_iff.mp read
    exact natBelow?_lt value

theorem serial_nextVersion {version : Option String} (h : serial version ≠ wordLimit - 1) :
    serial (some (nextVersion version)) = serial version + 1 := by
  have below : serial version + 1 < wordLimit := by
    have := serial_lt version
    omega
  rw [nextVersion_eq, Nat.mod_eq_of_lt below, serial, Option.bind_some, natBelow?_toString below]
  rfl

variable {α : Type} [ClusterObject α]

def revision (a : α) : Nat := serial (metadata a).resourceVersion

theorem revision_successor [LawfulObject α] {stored : α} (h : revision stored ≠ wordLimit - 1)
    (a : α) : revision (successor stored a) = revision stored + 1 := by
  rw [revision, successor, metadata_withVersion]
  exact serial_nextVersion h

structure Unexhausted (c : Collection α) : Prop where
  ne_last : ∀ {k a}, c.objects.get? k = some a → revision a ≠ wordLimit - 1

instance (c : Collection α) : Decidable c.Unexhausted :=
  decidable_of_iff (∀ e ∈ c.objects.toList, revision e.2 ≠ wordLimit - 1)
    ⟨fun h => ⟨fun found => h _ (Table.get?_eq_some_iff.mp found)⟩,
      fun h _ mem => h.ne_last (Table.get?_eq_some_iff.mpr mem)⟩

/-- Whatever is stored was stored before already, or has replaced something older. -/
structure Advances (c c' : Collection α) : Prop where
  before : ∀ {k a'}, c'.objects.get? k = some a' →
    ∃ a, c.objects.get? k = some a ∧ (a' = a ∨ revision a < revision a')

theorem Advances.of_objects_eq {c c' : Collection α} (eq : c'.objects = c.objects) :
    Advances c c' := by
  constructor
  intro k a found
  rw [eq] at found
  exact ⟨a, found, .inl rfl⟩

theorem Advances.refl (c : Collection α) : Advances c c := .of_objects_eq rfl

theorem Advances.trans {c₁ c₂ c₃ : Collection α} (h : Advances c₁ c₂) (h' : Advances c₂ c₃) :
    Advances c₁ c₃ := by
  constructor
  intro k a₃ found
  obtain ⟨a₂, found, later⟩ := h'.before found
  obtain ⟨a₁, found, sooner⟩ := h.before found
  refine ⟨a₁, found, ?_⟩
  cases later with
  | inl eq => exact eq ▸ sooner
  | inr later =>
    cases sooner with
    | inl eq => exact .inr (eq ▸ later)
    | inr sooner => exact .inr (Nat.lt_trans sooner later)

theorem Advances.of_settled_eq {c c' : Collection α} (eq : c'.settled = c.settled) :
    Advances c c' :=
  .of_objects_eq (congrArg Collection.objects eq :)

theorem Unexhausted.advances_insert [LawfulObject α] {c : Collection α} (h : c.Unexhausted)
    {stored a : α} (found : c.objects.get? (key a) = some stored) (writes : Nat) :
    Advances c
      { c with objects := c.objects.insert (key a) (successor stored a), writes } := by
  constructor
  intro k b after
  change (c.objects.insert _ _).get? k = some b at after
  by_cases eq : k = key a
  · subst eq
    rw [Table.get?_insert_self, Option.some.injEq] at after
    subst after
    refine ⟨stored, found, .inr ?_⟩
    rw [revision_successor (h.ne_last found)]
    exact Nat.lt_succ_self _
  · rw [Table.get?_insert_of_ne _ _ eq] at after
    exact ⟨b, after, .inl rfl⟩

theorem Unexhausted.advances_replace [LawfulObject α] {c : Collection α} (h : c.Unexhausted)
    (a : α) : Advances c (c.replace a).2 := by
  cases result : (c.replace a).1 with
  | error f => exact .of_settled_eq (settled_replace_error result)
  | ok b =>
    obtain ⟨-, stored, found, -, -, eq⟩ := replace_ok result
    rw [eq]
    exact h.advances_insert found _

theorem Advances.delete (c : Collection α) (k : Key) : Advances c (c.delete k).2 := by
  cases result : (c.delete k).1 with
  | error f => exact .of_settled_eq (settled_delete_error result)
  | ok u =>
    obtain ⟨-, -, eq⟩ := delete_ok result
    constructor
    intro k' a found
    rw [eq] at found
    exact ⟨a, Table.get?_of_get?_erase found, .inl rfl⟩

theorem Advances.eq_of_fresh {c c' : Collection α} (h : Advances c c') (sound : c.Sound)
    {a stored : α} (read : c.objects.get? (key a) = some a)
    (found : c'.objects.get? (key a) = some stored) {b : α}
    (version : (metadata b).resourceVersion = (metadata a).resourceVersion)
    (fresh : isStale stored b = false) : stored = a := by
  obtain ⟨a', before, later⟩ := h.before found
  rw [read] at before
  cases before
  cases later with
  | inl eq => exact eq
  | inr newer =>
    rw [isStale, version, sound.versioned read] at fresh
    have same : (metadata a).resourceVersion = (metadata stored).resourceVersion := by
      simpa using fresh
    rw [revision, revision, same] at newer
    exact absurd newer (Nat.lt_irrefl _)

end Collection

end FleetHealth
