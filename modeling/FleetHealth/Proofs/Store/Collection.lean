import FleetHealth.Store.Collection
import FleetHealth.Store.Repository
import FleetHealth.Proofs.Table

namespace FleetHealth

open ClusterObject Text

class LawfulObject (α : Type) [ClusterObject α] : Prop where
  metadata_withMetadata (a : α) (m : Metadata) : metadata (withMetadata a m) = m

instance : LawfulObject Policy := ⟨fun _ _ => rfl⟩
instance : LawfulObject Machine := ⟨fun _ _ => rfl⟩
instance : LawfulObject MachineSet := ⟨fun _ _ => rfl⟩
instance : LawfulObject Node := ⟨fun _ _ => rfl⟩

theorem natBelow?_toString {bound n : Nat} (h : n < bound) :
    natBelow? bound (toString n).toList = some n := by
  have digits : ∀ c ∈ Nat.toDigits 10 n, c.isDigit = true := fun c hc =>
    Nat.isDigit_of_mem_toDigits (by decide) (by decide) hc
  have value : ofDigits (Nat.toDigits 10 n) = n := Nat.ofDigitChars_ten_toDigits
  have nonempty : Nat.toDigits 10 n ≠ [] := Nat.toDigits_ne_nil
  rw [Nat.toString_eq_repr, Nat.toList_repr]
  cases eq : Nat.toDigits 10 n with
  | nil => exact absurd eq nonempty
  | cons d ds =>
    have first : d ≠ '+' := by
      rintro rfl
      exact absurd (digits '+' (by simp [eq])) (by decide)
    rw [eq] at digits value
    have all : (d :: ds).all Char.isDigit = true := List.all_eq_true.mpr digits
    rw [natBelow?, all, value]
    · simp [h]
    · rintro ds' sign
      cases sign
      exact first rfl

namespace Collection

variable {α : Type} [ClusterObject α]

theorem nextVersion_ne (version : Option String) : some (nextVersion version) ≠ version := by
  intro eq
  have bound : ∀ x, x % wordLimit < wordLimit := fun x => Nat.mod_lt x (by decide)
  -- read as a number, the next version is another one, even where the numbers begin anew
  have next := congrArg (·.bind fun v => natBelow? wordLimit v.toList) eq
  simp only [nextVersion, Option.bind_some, natBelow?_toString (bound _)] at next
  rw [← next] at next
  simp only [Option.getD_some, Option.some.injEq] at next
  simp only [wordLimit] at next
  omega

theorem isStale_of_unversioned {a : α} (stored : α)
    (unversioned : (metadata a).resourceVersion = none) : isStale stored a = false := by
  simp [isStale, unversioned]

section Versions

variable [LawfulObject α]

@[simp] theorem metadata_withVersion (a : α) (version : String) :
    metadata (withVersion a version) = { metadata a with resourceVersion := some version } :=
  LawfulObject.metadata_withMetadata _ _

@[simp] theorem key_withVersion (a : α) (version : String) :
    key (withVersion a version) = key a := by
  simp [key, Metadata.key]

@[simp] theorem labels_withVersion (a : α) (version : String) :
    labels (withVersion a version) = labels a := by
  simp [labels]

@[simp] theorem key_successor (stored a : α) : key (successor stored a) = key a := by
  simp [successor]

@[simp] theorem key_versioned (a : α) : key (versioned a) = key a := by
  rw [versioned]
  split <;> simp

theorem isStale_successor {stored a b : α} (versioned : (metadata a).resourceVersion.isSome = true)
    (fresh : isStale stored a = false) : isStale (successor stored b) a = true := by
  have same : (metadata a).resourceVersion = (metadata stored).resourceVersion := by
    simpa [isStale, versioned] using fresh
  have advanced : (metadata stored).resourceVersion ≠
      some (nextVersion (metadata stored).resourceVersion) := (nextVersion_ne _).symm
  rw [isStale, versioned, same, successor, metadata_withVersion]
  simpa using advanced

theorem isSome_version_versioned (a : α) : (metadata (versioned a)).resourceVersion.isSome := by
  rw [versioned]
  split
  · assumption
  · simp

end Versions

structure Sound (c : Collection α) : Prop where
  keyed : ∀ {k a}, c.objects.get? k = some a → key a = k
  versioned : ∀ {k a}, c.objects.get? k = some a → (metadata a).resourceVersion.isSome

inductive Reached : Collection α → Prop
  | ofList (as : List α) : Reached (ofList as)
  | replace {c} (a : α) : Reached c → Reached (c.replace a).2
  | delete {c} (k : Key) : Reached c → Reached (c.delete k).2
  | setFault {c} (fault : Fault) : Reached c → Reached (c.setFault fault)

def settled (c : Collection α) : Collection α := { c with rejected := 0 }

/-! Single writes -/

theorem replaced_error {c : Collection α} {a : α} {f : Failure}
    (h : (c.replaced a).1 = .error f) : (c.replaced a).2 = c := by
  rw [replaced] at h ⊢
  split
  · rfl
  · split
    · rfl
    · simp_all

theorem deleted_error {c : Collection α} {k : Key} {f : Failure}
    (h : (c.deleted k).1 = .error f) : (c.deleted k).2 = c := by
  rw [deleted] at h ⊢
  split
  · simp_all
  · rfl

theorem settled_write_error {β : Type} {c : Collection α} {k : Key} {f : Failure}
    {change : Collection α → Except Failure β × Collection α}
    (unchanged : (change c).1 = .error f → (change c).2 = c)
    (h : (c.write k change).1 = .error f) : (c.write k change).2.settled = c.settled := by
  rw [write] at h ⊢
  split
  · rename_i fault
    rw [fault] at h
    rw [unchanged h]
  · rfl
  · rfl

theorem settled_replace_error {c : Collection α} {a : α} {f : Failure}
    (h : (c.replace a).1 = .error f) : (c.replace a).2.settled = c.settled :=
  settled_write_error replaced_error h

theorem settled_delete_error {c : Collection α} {k : Key} {f : Failure}
    (h : (c.delete k).1 = .error f) : (c.delete k).2.settled = c.settled :=
  settled_write_error deleted_error h

theorem fault_of_write_ok {β : Type} {c : Collection α} {k : Key} {b : β}
    {change : Collection α → Except Failure β × Collection α}
    (h : (c.write k change).1 = .ok b) : c.fault = .none := by
  rw [write] at h
  split at h
  · assumption
  · cases h
  · cases h

theorem write_of_fault_none {β : Type} {c : Collection α} {k : Key}
    {change : Collection α → Except Failure β × Collection α} (h : c.fault = .none) :
    c.write k change = change c := by
  rw [write, h]

theorem replace_ok {c : Collection α} {a b : α} (h : (c.replace a).1 = .ok b) :
    c.fault = .none ∧ ∃ stored, c.objects.get? (key a) = some stored ∧ isStale stored a = false ∧
      b = successor stored a ∧
      (c.replace a).2 =
        { c with
          objects := c.objects.insert (key a) (successor stored a)
          writes := c.writes + 1 } := by
  have fault := fault_of_write_ok h
  rw [replace, write_of_fault_none fault] at h ⊢
  refine ⟨fault, ?_⟩
  rw [replaced] at h ⊢
  split at h
  · cases h
  · rename_i stored found
    split at h
    · cases h
    · rename_i fresh
      cases h
      exact ⟨stored, found, by simpa using fresh, rfl, by simp [fresh]⟩

theorem replace_of_fresh {c : Collection α} {stored a : α} (fault : c.fault = .none)
    (found : c.objects.get? (key a) = some stored) (fresh : isStale stored a = false) :
    (c.replace a).1 = .ok (successor stored a) := by
  rw [replace, write_of_fault_none fault, replaced, found]
  simp [fresh]

theorem replace_of_stale {c : Collection α} {stored a : α} (fault : c.fault = .none)
    (found : c.objects.get? (key a) = some stored) (stale : isStale stored a = true) :
    (c.replace a).1 = .error (.conflict (kind α).kind (shownName a)) := by
  rw [replace, write_of_fault_none fault, replaced, found]
  simp [stale]

theorem replace_error {c : Collection α} {a : α} {f : Failure} (fault : c.fault = .none)
    (h : (c.replace a).1 = .error f) : (c.replace a).2 = c := by
  rw [replace, write_of_fault_none fault] at h ⊢
  exact replaced_error h

theorem get?_replace_of_ne {c : Collection α} {a : α} {k : Key} (h : k ≠ key a) :
    (c.replace a).2.objects.get? k = c.objects.get? k := by
  cases result : (c.replace a).1 with
  | error f =>
    have objects := congrArg objects (settled_replace_error result)
    exact congrArg (·.get? k) objects
  | ok b =>
    obtain ⟨-, stored, -, -, -, eq⟩ := replace_ok result
    rw [eq]
    exact Table.get?_insert_of_ne _ _ h

theorem delete_ok {c : Collection α} {k : Key} (h : (c.delete k).1 = .ok ()) :
    c.fault = .none ∧ c.objects.contains k = true ∧
      (c.delete k).2 = { c with objects := c.objects.erase k, deletes := c.deletes + 1 } := by
  have fault := fault_of_write_ok h
  rw [delete, write_of_fault_none fault] at h ⊢
  refine ⟨fault, ?_⟩
  rw [deleted] at h ⊢
  split at h
  · rename_i found
    simp [found]
  · cases h

theorem not_contains_of_delete_error {c : Collection α} {k : Key} {f : Failure}
    (fault : c.fault = .none) (h : (c.delete k).1 = .error f) : c.objects.contains k = false := by
  rw [delete, write_of_fault_none fault] at h
  rw [deleted] at h
  split at h
  · cases h
  · rename_i missing
    simpa using missing

theorem delete_of_missing {c : Collection α} {k : Key} (fault : c.fault = .none)
    (gone : c.objects.contains k = false) : c.delete k = (.error (missing α k), c) := by
  rw [delete, write_of_fault_none fault, deleted]
  simp [gone]

theorem delete_error_eq {c : Collection α} {k : Key} {f : Failure} (fault : c.fault = .none)
    (h : (c.delete k).1 = .error f) : f = missing α k := by
  rw [delete, write_of_fault_none fault, deleted] at h
  split at h
  · cases h
  · cases h
    rfl

theorem delete_error {c : Collection α} {k : Key} {f : Failure} (fault : c.fault = .none)
    (h : (c.delete k).1 = .error f) : (c.delete k).2 = c := by
  rw [delete, write_of_fault_none fault] at h ⊢
  exact deleted_error h

/-! Reads -/

omit [ClusterObject α] in
theorem get?_of_get_ok {c : Collection α} {k : Key} {found : Option α} (h : c.get k = .ok found) :
    c.objects.get? k = found := by
  rw [get] at h
  split at h
  · cases h
  · cases h
    rfl

omit [ClusterObject α] in
theorem get_error {c : Collection α} {k : Key} {f : Failure} (h : c.get k = .error f) :
    f = unavailable := by
  rw [get] at h
  split at h
  · cases h
    rfl
  · cases h

theorem list_error {c : Collection α} {ns : Option String} {selector : Selector} {f : Failure}
    (h : c.list ns selector = .error f) : f = unavailable := by
  rw [list] at h
  split at h
  · cases h
    rfl
  · cases h

theorem list_ok {c : Collection α} {ns : Option String} {selector : Selector} {as : List α}
    (h : c.list ns selector = .ok as) : as = c.selected ns selector := by
  rw [list] at h
  split at h
  · cases h
  · cases h
    rfl

theorem mem_selected {c : Collection α} {ns : Option String} {selector : Selector} {a : α} :
    a ∈ c.selected ns selector ↔ ∃ k, c.objects.get? k = some a ∧
      (∀ n, ns = some n → k.ns = some n) ∧ selector.selects (labels a) = true := by
  simp only [selected, Table.values, Table.filter, List.mem_map, List.mem_filter, Bool.and_eq_true,
    Table.get?_eq_some_iff]
  constructor
  · rintro ⟨⟨k, b⟩, ⟨stored, inNs, selects⟩, rfl⟩
    refine ⟨k, stored, ?_, selects⟩
    rintro n rfl
    simpa using inNs
  · rintro ⟨k, stored, inNs, selects⟩
    refine ⟨(k, a), ⟨stored, ?_, selects⟩, rfl⟩
    cases ns with
    | none => rfl
    | some n => simp [inNs n rfl]

theorem Sound.map_key_selected {c : Collection α} (h : c.Sound) (ns : Option String)
    (selector : Selector) : (c.selected ns selector).map key = (c.objects.filter fun k a =>
      ns.all (fun n => k.ns == some n) && selector.selects (labels a)).keys := by
  rw [selected, Table.values, Table.keys, List.map_map]
  apply List.map_congr_left
  rintro ⟨k, a⟩ mem
  exact h.keyed (Table.get?_eq_some_iff.mpr (List.mem_filter.mp mem).1)

theorem Sound.nodup_selected {c : Collection α} (h : c.Sound) (ns : Option String)
    (selector : Selector) : ((c.selected ns selector).map key).Nodup := by
  rw [h.map_key_selected]
  exact Table.nodup_keys _

theorem Sound.ascending_selected {c : Collection α} (h : c.Sound) (ns : Option String)
    (selector : Selector) :
    ((c.selected ns selector).map key).Pairwise fun k k' => compare k k' = .lt := by
  rw [h.map_key_selected, Table.keys, List.pairwise_map]
  exact Table.ascending _

theorem Sound.selected_without {c : Collection α} (h : c.Sound) (ks : List Key)
    (ns : Option String) (selector : Selector) (deletes : Nat) :
    selected { c with objects := c.objects.without ks, deletes } ns selector =
      (c.selected ns selector).filter fun a => key a ∉ ks := by
  rw [selected, selected, Table.without, Table.filter_filter, Table.values, Table.values,
    List.filter_map, Table.filter, Table.filter, List.filter_filter]
  apply congrArg (List.map Prod.snd)
  apply List.filter_congr
  rintro ⟨k, a⟩ mem
  have own : key a = k := h.keyed (Table.get?_eq_some_iff.mpr mem)
  simp [own]

/-! Soundness -/

theorem Sound.of_objects_eq {c c' : Collection α} (h : c.Sound) (eq : c'.objects = c.objects) :
    c'.Sound :=
  ⟨fun found => h.keyed (eq ▸ found), fun found => h.versioned (eq ▸ found)⟩

theorem Sound.of_settled_eq {c c' : Collection α} (h : c.Sound) (eq : c'.settled = c.settled) :
    c'.Sound :=
  h.of_objects_eq (congrArg Collection.objects eq :)

theorem Sound.erase {c : Collection α} (h : c.Sound) (k : Key) (deletes : Nat) :
    Sound { c with objects := c.objects.erase k, deletes } :=
  ⟨fun found => h.keyed (Table.get?_of_get?_erase found),
    fun found => h.versioned (Table.get?_of_get?_erase found)⟩

theorem Sound.insert [LawfulObject α] {c : Collection α} (h : c.Sound) (stored a : α)
    (writes : Nat) :
    Sound { c with objects := c.objects.insert (key a) (successor stored a), writes } := by
  constructor
  · intro k b found
    change (c.objects.insert _ _).get? k = some b at found
    by_cases eq : k = key a
    · subst eq
      simp only [Table.get?_insert_self, Option.some.injEq] at found
      subst found
      simp
    · rw [Table.get?_insert_of_ne _ _ eq] at found
      exact h.keyed found
  · intro k b found
    change (c.objects.insert _ _).get? k = some b at found
    by_cases eq : k = key a
    · subst eq
      simp only [Table.get?_insert_self, Option.some.injEq] at found
      subst found
      simp [successor]
    · rw [Table.get?_insert_of_ne _ _ eq] at found
      exact h.versioned found

theorem Sound.replace [LawfulObject α] {c : Collection α} (h : c.Sound) (a : α) :
    (c.replace a).2.Sound := by
  cases result : (c.replace a).1 with
  | error f => exact h.of_settled_eq (settled_replace_error result)
  | ok b =>
    obtain ⟨-, stored, -, -, -, eq⟩ := replace_ok result
    rw [eq]
    exact h.insert stored a _

theorem Sound.delete {c : Collection α} (h : c.Sound) (k : Key) : (c.delete k).2.Sound := by
  cases result : (c.delete k).1 with
  | error f => exact h.of_settled_eq (settled_delete_error result)
  | ok u =>
    obtain ⟨-, -, eq⟩ := delete_ok result
    rw [eq]
    exact h.erase k _

theorem Sound.setFault {c : Collection α} (h : c.Sound) (fault : Fault) :
    (c.setFault fault).Sound := by
  apply h.of_objects_eq
  cases fault <;> rfl

theorem sound_ofList [LawfulObject α] (as : List α) : (ofList as).Sound := by
  have own : ∀ {k : Key} {a : α}, (ofList as).objects.get? k = some a →
      ∃ a', k = key (Collection.versioned a') ∧ a = Collection.versioned a' := by
    intro k a found
    have mem := Table.mem_of_mem_ofList (Table.get?_eq_some_iff.mp found)
    obtain ⟨a', -, eq⟩ := List.mem_map.mp mem
    cases eq
    exact ⟨a', rfl, rfl⟩
  constructor
  · intro k a found
    obtain ⟨a', rfl, rfl⟩ := own found
    rfl
  · intro k a found
    obtain ⟨a', rfl, rfl⟩ := own found
    exact isSome_version_versioned a'

theorem Reached.sound [LawfulObject α] {c : Collection α} (h : c.Reached) : c.Sound := by
  induction h with
  | ofList as => exact sound_ofList as
  | replace a _ ih => exact ih.replace a
  | delete k _ ih => exact ih.delete k
  | setFault fault _ ih => exact ih.setFault fault

end Collection

end FleetHealth
