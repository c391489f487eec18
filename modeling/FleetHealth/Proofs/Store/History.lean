import FleetHealth.Proofs.Store.Version
/-!
The history of a collection: what is asked of it, call after call, and what it answers. However it
is called, its objects stay under their own keys and have versions, a call that fails leaves it as
it is, and a write changes one entry. As long as no version comes to its end, no version is stored
twice under a key, so that whoever writes from a version knows the object that is stored.
-/

namespace FleetHealth

open ClusterObject

inductive Call (α : Type) where
  | get (k : Key)
  | list (ns : Option String) (selector : Selector)
  | replace (a : α)
  | delete (k : Key)

def Call.written? {α : Type} [ClusterObject α] : Call α → Option Key
  | .get _ | .list _ _ => none
  | .replace a => some (key a)
  | .delete k => some k

inductive Answer (α : Type) where
  | found (a : Option α)
  | listed (as : List α)
  | replaced (a : α)
  | deleted
  deriving DecidableEq

namespace Collection

variable {α : Type} [ClusterObject α]

def call (c : Collection α) : Call α → Except Failure (Answer α) × Collection α
  | .get k => ((c.get k).map .found, c)
  | .list ns selector => ((c.list ns selector).map .listed, c)
  | .replace a => ((c.replace a).1.map .replaced, (c.replace a).2)
  | .delete k => ((c.delete k).1.map fun _ => .deleted, (c.delete k).2)

/-- The collection of some objects at a time, which is the number of calls that have been made by
then. -/
def moment (as : List α) (calls : List (Call α)) (time : Nat) : Collection α :=
  (calls.take time).foldl (fun c call => (c.call call).2) (ofList as)

structure Lists (c : Collection α) (ns : Option String) (selector : Selector) (as : List α) :
    Prop where
  ascending : (as.map key).Pairwise fun k k' => compare k k' = .lt
  mem_iff : ∀ a, a ∈ as ↔ c.objects.get? (key a) = some a ∧
    (∀ n, ns = some n → (key a).ns = some n) ∧ selector.selects (labels a) = true

structure ChangedAt (k : Key) (c c' : Collection α) : Prop where
  changed : c'.objects.get? k ≠ c.objects.get? k
  others : ∀ k', k' ≠ k → c'.objects.get? k' = c.objects.get? k'

inductive Outcome (c : Collection α) :
    Call α → Except Failure (Answer α) → Collection α → Prop
  | found {k : Key} : Outcome c (.get k) (.ok (.found (c.objects.get? k))) c
  | listed {ns : Option String} {selector : Selector} {as : List α} :
      c.Lists ns selector as → Outcome c (.list ns selector) (.ok (.listed as)) c
  | replaced {a stored : α} {version : String} {c' : Collection α} :
      c.objects.get? (key a) = some stored → isStale stored a = false →
      c'.objects.get? (key a) = some (withVersion a version) → ChangedAt (key a) c c' →
      c'.writes = c.writes + 1 → c'.deletes = c.deletes →
      Outcome c (.replace a) (.ok (.replaced (withVersion a version))) c'
  | replaceMissing {a : α} : c.objects.get? (key a) = none →
      Outcome c (.replace a) (.error (missing α (key a))) c
  | replaceStale {a stored : α} :
      c.objects.get? (key a) = some stored → isStale stored a = true →
      Outcome c (.replace a) (.error (.conflict (kind α).kind (shownName a))) c
  | deleted {k : Key} {c' : Collection α} :
      c'.objects.get? k = none → ChangedAt k c c' →
      c'.writes = c.writes → c'.deletes = c.deletes + 1 →
      Outcome c (.delete k) (.ok .deleted) c'
  | deleteMissing {k : Key} : c.objects.get? k = none →
      Outcome c (.delete k) (.error (missing α k)) c

structure Unwritten (as : List α) (calls : List (Call α)) (k : Key) (a : α)
    (earlier later : Nat) : Prop where
  entry : ∀ time, earlier ≤ time → time ≤ later →
    (moment as calls time).objects.get? k = some a
  refused : ∀ time x, earlier ≤ time → time < later → calls[time]? = some x →
    x.written? = some k → ∃ f, ((moment as calls time).call x).1 = .error f

variable {c : Collection α} {as : List α} {calls : List (Call α)} {time : Nat}

theorem lists_selected (sound : c.Sound) (ns : Option String) (selector : Selector) :
    c.Lists ns selector (c.selected ns selector) := by
  refine ⟨sound.ascending_selected ns selector, ?_⟩
  intro a
  rw [mem_selected]
  constructor
  · rintro ⟨k, stored, inNamespace, selects⟩
    obtain rfl : key a = k := sound.keyed stored
    exact ⟨stored, inNamespace, selects⟩
  · rintro ⟨stored, inNamespace, selects⟩
    exact ⟨key a, stored, inNamespace, selects⟩

/-! Single calls -/

theorem fault_call (fault : c.fault = .none) (x : Call α) : (c.call x).2.fault = .none := by
  cases x with
  | get k => exact fault
  | list ns selector => exact fault
  | replace a =>
    change (c.replace a).2.fault = .none
    cases result : (c.replace a).1 with
    | error f => rw [replace_error fault result, fault]
    | ok b =>
      obtain ⟨-, _, -, -, -, written⟩ := replace_ok result
      rw [written]
      exact fault
  | delete k =>
    change (c.delete k).2.fault = .none
    cases result : (c.delete k).1 with
    | error f => rw [delete_error fault result, fault]
    | ok u =>
      obtain ⟨-, -, eq⟩ := delete_ok result
      rw [eq]
      exact fault

theorem moment_succ {x : Call α} (h : calls[time]? = some x) :
    moment as calls (time + 1) = ((moment as calls time).call x).2 := by
  rw [moment, List.take_add_one, List.foldl_append, h]
  rfl

theorem moment_succ_of_none (h : calls[time]? = none) :
    moment as calls (time + 1) = moment as calls time := by
  rw [moment, List.take_add_one, h, Option.toList_none, List.append_nil, ← moment]

theorem outcome_delete (fault : c.fault = .none) (k : Key) :
    Outcome c (.delete k) ((c.delete k).1.map fun _ => .deleted) (c.delete k).2 := by
  cases found : c.objects.get? k with
  | none =>
    rw [delete_of_missing fault (by simp [Table.contains, found])]
    exact .deleteMissing found
  | some stored =>
    have contained : c.objects.contains k = true := by simp [Table.contains, found]
    have gone : (c.objects.erase k).get? k = none := by simp [Table.get?_erase]
    rw [delete, write_of_fault_none fault, Collection.deleted, if_pos contained]
    refine .deleted gone ⟨?_, ?_⟩ rfl rfl
    · change (c.objects.erase k).get? k ≠ _
      rw [gone, found]
      simp
    · intro k' other
      exact Table.get?_erase_of_ne _ other

theorem fault_moment (as : List α) (calls : List (Call α)) (time : Nat) :
    (moment as calls time).fault = .none := by
  induction time with
  | zero => rfl
  | succ time ih =>
    cases made : calls[time]? with
    | none => rw [moment_succ_of_none made, ih]
    | some x => rw [moment_succ made, fault_call ih]

/-- A version that is found again has belonged to one object all the time. -/
theorem Advances.eq_of_version {c₁ c₂ c₃ : Collection α} (h : Advances c₁ c₂)
    (h' : Advances c₂ c₃) {k : Key} {a b : α} (before : c₁.objects.get? k = some a)
    (after : c₃.objects.get? k = some b)
    (version : (metadata b).resourceVersion = (metadata a).resourceVersion) :
    c₂.objects.get? k = some a := by
  obtain ⟨m, between, later⟩ := h'.before after
  obtain ⟨a', first, sooner⟩ := h.before between
  rw [before] at first
  cases first
  -- along the history revisions only grow, so between two equal ones nothing was written
  have same : revision b = revision a := congrArg serial version
  cases sooner with
  | inl eq => rw [between, eq]
  | inr sooner =>
    cases later with
    | inl eq =>
      rw [eq] at same
      omega
    | inr later => omega

section Lawful

variable [LawfulObject α]

theorem Sound.call (sound : c.Sound) (x : Call α) : (c.call x).2.Sound := by
  cases x with
  | get k => exact sound
  | list ns selector => exact sound
  | replace a => exact sound.replace a
  | delete k => exact sound.delete k

theorem Unexhausted.advances_call (unexhausted : c.Unexhausted) (x : Call α) :
    Advances c (c.call x).2 := by
  cases x with
  | get k => exact .refl c
  | list ns selector => exact .refl c
  | replace a => exact unexhausted.advances_replace a
  | delete k => exact .delete c k

theorem outcome_replace (fault : c.fault = .none) (a : α) :
    Outcome c (.replace a) ((c.replace a).1.map .replaced) (c.replace a).2 := by
  cases found : c.objects.get? (key a) with
  | none =>
    rw [replace, write_of_fault_none fault, replaced, found]
    exact .replaceMissing found
  | some stored =>
    cases fresh : isStale stored a with
    | true =>
      have refused := replace_of_stale fault found fresh
      rw [replace_error fault refused, refused]
      exact .replaceStale found fresh
    | false =>
      have written := replace_of_fresh fault found fresh
      obtain ⟨-, stored', found', -, -, eq⟩ := replace_ok written
      rw [found] at found'
      cases found'
      rw [written, eq]
      refine .replaced found fresh (Table.get?_insert_self ..) ⟨?_, ?_⟩ rfl rfl
      · change (c.objects.insert _ _).get? _ ≠ _
        rw [Table.get?_insert_self, found]
        intro same
        have versions := congrArg (·.bind fun b => (metadata b).resourceVersion) same
        simp only [Option.bind_some, successor, metadata_withVersion] at versions
        exact nextVersion_ne _ versions
      · intro k other
        exact Table.get?_insert_of_ne _ _ other

theorem outcome_call (sound : c.Sound) (fault : c.fault = .none) (x : Call α) :
    Outcome c x (c.call x).1 (c.call x).2 := by
  cases x with
  | get k =>
    have read : c.get k = .ok (c.objects.get? k) := by simp [get, fault]
    rw [call, read]
    exact .found
  | list ns selector =>
    have read : c.list ns selector = .ok (c.selected ns selector) := by simp [list, fault]
    rw [call, read]
    exact .listed (lists_selected sound ns selector)
  | replace a => exact outcome_replace fault a
  | delete k => exact outcome_delete fault k

/-! Whole histories -/

theorem sound_moment (as : List α) (calls : List (Call α)) (time : Nat) :
    (moment as calls time).Sound := by
  induction time with
  | zero => exact sound_ofList as
  | succ time ih =>
    cases made : calls[time]? with
    | none => rwa [moment_succ_of_none made]
    | some x =>
      rw [moment_succ made]
      exact ih.call x

theorem advances_moment {earlier later : Nat} (le : earlier ≤ later)
    (unexhausted : ∀ time < later, (moment as calls time).Unexhausted) :
    Advances (moment as calls earlier) (moment as calls later) := by
  induction le with
  | refl => exact .refl _
  | @step later le ih =>
    have before := ih fun time lt => unexhausted time (Nat.lt_succ_of_lt lt)
    cases made : calls[later]? with
    | none => rwa [moment_succ_of_none made]
    | some x =>
      rw [moment_succ made]
      exact before.trans ((unexhausted later (Nat.lt_succ_self later)).advances_call x)

theorem unwritten_of_holds {k : Key} {a : α} {earlier later : Nat}
    (holds : ∀ time, earlier ≤ time → time ≤ later →
      (moment as calls time).objects.get? k = some a) :
    Unwritten as calls k a earlier later := by
  refine ⟨holds, ?_⟩
  intro time x ge lt made writes
  have kept : (moment as calls (time + 1)).objects.get? k =
      (moment as calls time).objects.get? k := by
    rw [holds time ge lt.le, holds (time + 1) (Nat.le_succ_of_le ge) lt]
  have outcome := outcome_call (sound_moment as calls time) (fault_moment as calls time) x
  rw [← moment_succ made] at outcome
  generalize moment as calls (time + 1) = after at outcome kept
  generalize ((moment as calls time).call x).1 = answer at outcome ⊢
  -- a write that succeeds would have left another entry
  cases outcome with
  | found => cases writes
  | listed => cases writes
  | replaced _ _ _ changed =>
    cases writes
    exact absurd kept changed.changed
  | deleted _ changed =>
    cases writes
    exact absurd kept changed.changed
  | replaceMissing => exact ⟨_, rfl⟩
  | replaceStale => exact ⟨_, rfl⟩
  | deleteMissing => exact ⟨_, rfl⟩

theorem unwritten_of_version {k : Key} {a b : α} {earlier later : Nat}
    (unexhausted : ∀ time < later, (moment as calls time).Unexhausted)
    (before : (moment as calls earlier).objects.get? k = some a)
    (after : (moment as calls later).objects.get? k = some b)
    (version : (metadata b).resourceVersion = (metadata a).resourceVersion) :
    Unwritten as calls k a earlier later := by
  apply unwritten_of_holds
  intro time ge le'
  have first : Advances (moment as calls earlier) (moment as calls time) :=
    advances_moment ge fun t lt => unexhausted t (Nat.lt_of_lt_of_le lt le')
  exact first.eq_of_version (advances_moment le' unexhausted) before after version

/-- Whatever is asked of a collection, its objects stay under their own keys and have versions, and
each call has one of its outcomes. As long as no version has come to its end, an entry that has the
version of an earlier one has not been written since, and neither has one that is replaced from the
version of an earlier one. -/
theorem history_consistent (as : List α) (calls : List (Call α)) :
    (∀ time, (moment as calls time).Sound) ∧
    (∀ time x, calls[time]? = some x → Outcome (moment as calls time) x
      ((moment as calls time).call x).1 (moment as calls (time + 1))) ∧
    ∀ earlier later, (∀ time < later, (moment as calls time).Unexhausted) →
      ∀ k a, (moment as calls earlier).objects.get? k = some a →
        (∀ b, (moment as calls later).objects.get? k = some b →
          (metadata b).resourceVersion = (metadata a).resourceVersion →
          Unwritten as calls k a earlier later) ∧
        ∀ b b', key b = k → (metadata b).resourceVersion = (metadata a).resourceVersion →
          ((moment as calls later).call (.replace b)).1 = .ok (.replaced b') →
          Unwritten as calls k a earlier later := by
  refine ⟨sound_moment as calls, ?_, ?_⟩
  · intro time x made
    rw [moment_succ made]
    exact outcome_call (sound_moment as calls time) (fault_moment as calls time) x
  · intro earlier later unexhausted k a before
    refine ⟨fun b after version => unwritten_of_version unexhausted before after version, ?_⟩
    rintro b b' rfl version succeeded
    have outcome := outcome_call (sound_moment as calls later) (fault_moment as calls later)
      (.replace b)
    rw [succeeded] at outcome
    cases outcome with
    | @replaced _ stored _ _ found fresh =>
      have versioned := (sound_moment as calls earlier).versioned before
      have same : (metadata a).resourceVersion = (metadata stored).resourceVersion := by
        simpa [isStale, version, versioned] using fresh
      exact unwritten_of_version unexhausted before found same.symm

end Lawful

namespace Sample

def node (name : String) (version : Option String) : Node where
  metadata := { Metadata.blank with name := some name, resourceVersion := version }
  spec := none
  status := none

def nodes : List Node := [node "n0" (some "007"), node "n1" none, node "n2" (some "seven")]

def requests : List (Call Node) := [
  .replace (node "n0" (some "007")), .replace (node "n0" (some "007")), .replace (node "n1" none),
  .replace (node "n2" (some "seven")), .delete (.clusterWide "n1"),
  .replace (node "n1" (some "2")), .replace (node "n0" (some "8"))]

end Sample

open Sample in
/-- The version 007 is followed by 8, so that it is refused from then on; nobody writes the node
until it is replaced from its version 8. -/
theorem sample_history_consistent :
    (∀ time < 6, (moment nodes requests time).Unexhausted) ∧
    Outcome (moment nodes requests 1) (.replace (node "n0" (some "007")))
      (.error (.conflict "Node" "n0")) (moment nodes requests 2) ∧
    ((moment nodes requests 6).call (.replace (node "n0" (some "8")))).1 =
      .ok (.replaced (node "n0" (some "9"))) ∧
    Unwritten nodes requests (.clusterWide "n0") (node "n0" (some "8")) 1 6 ∧
    (moment nodes requests 7).Sound := by
  obtain ⟨sound, outcome, versions⟩ := history_consistent nodes requests
  have unexhausted : ∀ time < 6, (moment nodes requests time).Unexhausted := by decide
  have refused : ((moment nodes requests 1).call (.replace (node "n0" (some "007")))).1 =
      .error (.conflict "Node" "n0") := by decide
  have succeeded : ((moment nodes requests 6).call (.replace (node "n0" (some "8")))).1 =
      .ok (.replaced (node "n0" (some "9"))) := by decide
  refine ⟨unexhausted, ?_, succeeded, ?_, sound 7⟩
  · rw [← refused]
    exact outcome 1 _ rfl
  · exact (versions 1 6 unexhausted (.clusterWide "n0") (node "n0" (some "8")) (by decide)).2
      (node "n0" (some "8")) _ rfl rfl succeeded

end Collection

end FleetHealth
