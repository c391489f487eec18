/-!
Tables: finite maps whose entries are kept in strictly ascending order of their keys. Reading a
table after a change is described key by key, and two tables that answer alike are equal.
-/

universe u v w

namespace FleetHealth

open Std

structure Table (κ : Type u) (β : Type v) [Ord κ] where
  toList : List (κ × β)
  ascending : toList.Pairwise fun a b => compare a.1 b.1 = .lt

namespace Table

variable {κ : Type u} {β : Type v} {γ : Type w} [Ord κ]

theorem ext {s t : Table κ β} (h : s.toList = t.toList) : s = t := by
  cases s; cases t; cases h; rfl

instance [DecidableEq κ] [DecidableEq β] : DecidableEq (Table κ β) := fun s t =>
  decidable_of_iff (s.toList = t.toList) ⟨ext, fun h => h ▸ rfl⟩

def empty : Table κ β := ⟨[], .nil⟩

instance : EmptyCollection (Table κ β) := ⟨empty⟩
instance : Inhabited (Table κ β) := ⟨empty⟩

def size (t : Table κ β) : Nat := t.toList.length

def keys (t : Table κ β) : List κ := t.toList.map Prod.fst

def values (t : Table κ β) : List β := t.toList.map Prod.snd

def find (k : κ) : List (κ × β) → Option β
  | [] => none
  | (k', b) :: es => if compare k k' = .eq then some b else find k es

def get? (t : Table κ β) (k : κ) : Option β := find k t.toList

def contains (t : Table κ β) (k : κ) : Bool := (t.get? k).isSome

def insertEntry (k : κ) (b : β) : List (κ × β) → List (κ × β)
  | [] => [(k, b)]
  | (k', b') :: es => match compare k k' with
    | .lt => (k, b) :: (k', b') :: es
    | .eq => (k, b) :: es
    | .gt => (k', b') :: insertEntry k b es

theorem mem_insertEntry {k : κ} {b : β} {e : κ × β} {es : List (κ × β)}
    (h : e ∈ insertEntry k b es) : e = (k, b) ∨ e ∈ es := by
  induction es with
  | nil => simpa [insertEntry] using h
  | cons hd tl ih =>
    rw [insertEntry] at h
    split at h <;> grind

theorem ascending_insertEntry [TransOrd κ] [LawfulEqOrd κ] (k : κ) (b : β) {es : List (κ × β)}
    (h : es.Pairwise fun a b => compare a.1 b.1 = .lt) :
    (insertEntry k b es).Pairwise fun a b => compare a.1 b.1 = .lt := by
  induction es with
  | nil => simp [insertEntry]
  | cons hd tl ih =>
    obtain ⟨k', b'⟩ := hd
    have first : ∀ e ∈ tl, compare k' e.1 = .lt := fun _ he => List.rel_of_pairwise_cons h he
    rw [insertEntry]
    split
    · rename_i lt
      refine h.cons fun e he => ?_
      rcases List.mem_cons.mp he with rfl | he
      · exact lt
      · exact TransCmp.lt_trans lt (first e he)
    · rename_i eq
      have : k = k' := LawfulEqCmp.compare_eq_iff_eq.mp eq
      subst this
      exact h.of_cons.cons first
    · rename_i gt
      refine (ih h.of_cons).cons fun e he => ?_
      rcases mem_insertEntry he with rfl | he
      · exact OrientedCmp.lt_of_gt gt
      · exact first e he

def insert [TransOrd κ] [LawfulEqOrd κ] (t : Table κ β) (k : κ) (b : β) : Table κ β :=
  ⟨insertEntry k b t.toList, ascending_insertEntry k b t.ascending⟩

def filter (p : κ → β → Bool) (t : Table κ β) : Table κ β :=
  ⟨t.toList.filter fun e => p e.1 e.2, t.ascending.filter _⟩

def erase (t : Table κ β) (k : κ) : Table κ β := t.filter fun k' _ => compare k k' != .eq

/-- The table of a list of entries; of several with one key the last one counts. -/
def ofList [TransOrd κ] [LawfulEqOrd κ] (es : List (κ × β)) : Table κ β :=
  es.foldl (fun t e => t.insert e.1 e.2) empty

theorem mem_of_mem_foldl_insert [TransOrd κ] [LawfulEqOrd κ] {e : κ × β} (es : List (κ × β))
    (t : Table κ β) (h : e ∈ (es.foldl (fun t e => t.insert e.1 e.2) t).toList) :
    e ∈ t.toList ∨ e ∈ es := by
  induction es generalizing t with
  | nil => exact .inl h
  | cons hd tl ih =>
    rcases ih _ h with h | h
    · rcases mem_insertEntry h with rfl | h <;> simp_all
    · simp [h]

theorem mem_of_mem_ofList [TransOrd κ] [LawfulEqOrd κ] {e : κ × β} {es : List (κ × β)}
    (h : e ∈ (ofList es).toList) : e ∈ es := by
  simpa [empty] using mem_of_mem_foldl_insert es empty h

theorem insertEntry_of_lt [TransOrd κ] {k : κ} {b : β} {es : List (κ × β)}
    (h : ∀ e ∈ es, compare e.1 k = .lt) : insertEntry k b es = es ++ [(k, b)] := by
  induction es with
  | nil => rfl
  | cons hd tl ih =>
    have gt : compare k hd.1 = .gt := OrientedCmp.gt_of_lt (h hd (by simp))
    simp [insertEntry, gt, ih fun e he => h e (by simp [he])]

theorem toList_foldl_insert [TransOrd κ] [LawfulEqOrd κ] (es : List (κ × β)) (t : Table κ β)
    (asc : (t.toList ++ es).Pairwise fun a b => compare a.1 b.1 = .lt) :
    (es.foldl (fun t e => t.insert e.1 e.2) t).toList = t.toList ++ es := by
  induction es generalizing t with
  | nil => simp
  | cons hd tl ih =>
    have last : (t.insert hd.1 hd.2).toList = t.toList ++ [hd] :=
      insertEntry_of_lt fun e he => (List.pairwise_append.mp asc).2.2 e he hd (by simp)
    rw [List.foldl_cons, ih _ (by simpa [last] using asc), last]
    simp

@[simp] theorem ofList_toList [TransOrd κ] [LawfulEqOrd κ] (t : Table κ β) : ofList t.toList = t :=
  ext (toList_foldl_insert t.toList empty t.ascending)

def map (f : β → γ) (t : Table κ β) : Table κ γ :=
  ⟨t.toList.map fun e => (e.1, f e.2), List.pairwise_map.mpr t.ascending⟩

@[simp] theorem get?_empty (k : κ) : (empty : Table κ β).get? k = none := rfl

theorem find_insertEntry [TransOrd κ] [LawfulEqOrd κ] (k k' : κ) (b : β) (es : List (κ × β)) :
    find k' (insertEntry k b es) = if compare k' k = .eq then some b else find k' es := by
  induction es with
  | nil => rfl
  | cons hd tl ih =>
    obtain ⟨k₁, b₁⟩ := hd
    rw [insertEntry]
    split
    · rw [find]
    · rename_i eq
      have : k = k₁ := LawfulEqCmp.compare_eq_iff_eq.mp eq
      subst this
      by_cases h : compare k' k = .eq <;> simp [find, h]
    · rename_i gt
      rw [find, ih, find]
      by_cases h : compare k' k = .eq
      · have : k' = k := LawfulEqCmp.compare_eq_iff_eq.mp h
        subst this
        simp [gt]
      · simp [h]

theorem get?_insert [TransOrd κ] [LawfulEqOrd κ] (t : Table κ β) (k k' : κ) (b : β) :
    (t.insert k b).get? k' = if compare k' k = .eq then some b else t.get? k' :=
  find_insertEntry k k' b t.toList

@[simp] theorem get?_insert_self [TransOrd κ] [LawfulEqOrd κ] (t : Table κ β) (k : κ) (b : β) :
    (t.insert k b).get? k = some b := by
  simp [get?_insert]

theorem mem_of_find {k : κ} {b : β} {es : List (κ × β)} [LawfulEqOrd κ]
    (h : find k es = some b) : (k, b) ∈ es := by
  induction es with
  | nil => simp [find] at h
  | cons hd tl ih =>
    obtain ⟨k', b'⟩ := hd
    rw [find] at h
    split at h
    · rename_i eq
      have : k = k' := LawfulEqCmp.compare_eq_iff_eq.mp eq
      simp_all
    · exact List.mem_cons_of_mem _ (ih h)

theorem find_of_mem {k : κ} {b : β} {es : List (κ × β)} [TransOrd κ] [LawfulEqOrd κ]
    (asc : es.Pairwise fun a b => compare a.1 b.1 = .lt) (h : (k, b) ∈ es) :
    find k es = some b := by
  induction es with
  | nil => simp at h
  | cons hd tl ih =>
    obtain ⟨k', b'⟩ := hd
    rw [find]
    rcases List.mem_cons.mp h with h | h
    · simp_all
    · have lt : compare k' k = .lt := List.rel_of_pairwise_cons asc h
      have gt : compare k k' = .gt := OrientedCmp.gt_of_lt lt
      simp [gt, ih asc.of_cons h]

theorem get?_eq_some_iff [TransOrd κ] [LawfulEqOrd κ] {t : Table κ β} {k : κ} {b : β} :
    t.get? k = some b ↔ (k, b) ∈ t.toList :=
  ⟨mem_of_find, find_of_mem t.ascending⟩

theorem get?_filter [TransOrd κ] [LawfulEqOrd κ] (p : κ → β → Bool) (t : Table κ β) (k : κ) :
    (t.filter p).get? k = (t.get? k).filter (p k) := by
  ext b
  rw [get?_eq_some_iff]
  simp [filter, Option.filter_eq_some_iff, get?_eq_some_iff]

theorem get?_erase [TransOrd κ] [LawfulEqOrd κ] (t : Table κ β) (k k' : κ) :
    (t.erase k).get? k' = if compare k k' = .eq then none else t.get? k' := by
  rw [erase, get?_filter]
  by_cases h : compare k k' = .eq <;> cases t.get? k' <;> simp [h]

end Table

end FleetHealth
