import FleetHealth.Table
import Mathlib.Data.List.Induction
import Mathlib.Data.List.Sort

universe u v

namespace FleetHealth.Table

open Std

variable {κ : Type u} {β : Type v} [Ord κ]

theorem get?_insert_of_ne [TransOrd κ] [LawfulEqOrd κ] (t : Table κ β) {k k' : κ} (b : β)
    (h : k' ≠ k) : (t.insert k b).get? k' = t.get? k' := by
  rw [get?_insert, if_neg]
  intro eq
  exact h (LawfulEqCmp.compare_eq_iff_eq.mp eq)

theorem get?_erase_of_ne [TransOrd κ] [LawfulEqOrd κ] (t : Table κ β) {k k' : κ} (h : k' ≠ k) :
    (t.erase k).get? k' = t.get? k' := by
  rw [get?_erase, if_neg]
  intro eq
  exact h (LawfulEqCmp.compare_eq_iff_eq.mp eq).symm

theorem get?_of_get?_erase [TransOrd κ] [LawfulEqOrd κ] {t : Table κ β} {k k' : κ} {b : β}
    (h : (t.erase k).get? k' = some b) : t.get? k' = some b := by
  rw [get?_erase] at h
  split at h
  · cases h
  · exact h

theorem mem_keys_iff [TransOrd κ] [LawfulEqOrd κ] {t : Table κ β} {k : κ} :
    k ∈ t.keys ↔ t.contains k := by
  simp only [keys, List.mem_map, contains, Option.isSome_iff_exists, get?_eq_some_iff]
  constructor
  · rintro ⟨⟨k', b⟩, h, rfl⟩
    exact ⟨b, h⟩
  · rintro ⟨b, h⟩
    exact ⟨(k, b), h, rfl⟩

theorem mem_values_iff [TransOrd κ] [LawfulEqOrd κ] {t : Table κ β} {b : β} :
    b ∈ t.values ↔ ∃ k, t.get? k = some b := by
  simp [values, get?_eq_some_iff]

theorem ext_get? [TransOrd κ] [LawfulEqOrd κ] {s t : Table κ β} (h : ∀ k, s.get? k = t.get? k) :
    s = t := by
  have irrefl : Std.Irrefl fun a b : κ × β => compare a.1 b.1 = .lt := ⟨fun a lt => by simp at lt⟩
  have antisymm : Std.Antisymm fun a b : κ × β => compare a.1 b.1 = .lt := by
    constructor
    intro a b lt gt
    rw [OrientedCmp.gt_of_lt lt] at gt
    cases gt
  apply ext
  apply s.ascending.eq_of_mem_iff t.ascending
  rintro ⟨k, b⟩
  rw [← get?_eq_some_iff, ← get?_eq_some_iff, h]

theorem nodup_keys [LawfulEqOrd κ] (t : Table κ β) : t.keys.Nodup := by
  rw [keys, List.Nodup, List.pairwise_map]
  refine t.ascending.imp ?_
  intro a b lt eq
  rw [eq] at lt
  simp at lt

theorem filter_filter (t : Table κ β) (p q : κ → β → Bool) :
    (t.filter p).filter q = t.filter fun k b => p k b && q k b := by
  apply ext
  simp [filter, List.filter_filter, Bool.and_comm]

theorem filter_congr {t : Table κ β} {p q : κ → β → Bool}
    (h : ∀ e ∈ t.toList, p e.1 e.2 = q e.1 e.2) : t.filter p = t.filter q := by
  apply ext
  exact List.filter_congr h

variable [DecidableEq κ]

theorem get?_ofList [TransOrd κ] [LawfulEqOrd κ] (es : List (κ × β)) (k : κ) :
    (ofList es).get? k = ((es.filter fun e => e.1 = k).map Prod.snd).getLast? := by
  induction es using List.reverseRecOn with
  | nil => rfl
  | append_singleton es e ih =>
    rw [ofList, List.foldl_concat, ← ofList, get?_insert, List.filter_append, List.map_append]
    by_cases own : e.1 = k
    · simp [own]
    · simp [own, Ne.symm own, LawfulEqCmp.compare_eq_iff_eq, ih]

def without (t : Table κ β) (ks : List κ) : Table κ β := t.filter fun k _ => !ks.contains k

@[simp] theorem without_nil (t : Table κ β) : t.without [] = t := by
  apply ext
  simp [without, filter]

theorem without_without (t : Table κ β) (ks ks' : List κ) :
    (t.without ks).without ks' = t.without (ks ++ ks') := by
  rw [without, without, without, filter_filter]
  apply filter_congr
  intro e _
  simp

theorem without_perm {ks ks' : List κ} (h : ks.Perm ks') (t : Table κ β) :
    t.without ks = t.without ks' := by
  apply filter_congr
  intro e _
  simp [h.mem_iff]

theorem without_cons [LawfulEqOrd κ] (t : Table κ β) (k : κ) (ks : List κ) :
    t.without (k :: ks) = (t.erase k).without ks := by
  rw [without, without, erase, filter_filter]
  apply filter_congr
  intro e _
  have same : compare k e.1 = .eq ↔ e.1 = k := by
    rw [LawfulEqCmp.compare_eq_iff_eq, eq_comm]
  by_cases h : e.1 = k
  · simp [h]
  · simp [h, same]

end FleetHealth.Table
