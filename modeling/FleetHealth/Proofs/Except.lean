import Mathlib.Data.List.Forall2

universe u v

namespace FleetHealth

variable {ε : Type u} {α β : Type v}

theorem bind_eq_ok_iff {x : Except ε α} {f : α → Except ε β} {b : β} :
    x >>= f = .ok b ↔ ∃ a, x = .ok a ∧ f a = .ok b := by
  cases x with
  | error e =>
    constructor
    · intro h
      cases h
    · rintro ⟨a, h, -⟩
      cases h
  | ok a =>
    constructor
    · intro h
      exact ⟨a, rfl, h⟩
    · rintro ⟨a', h, h'⟩
      cases h
      exact h'

theorem bind_eq_ok {x : Except ε α} {f : α → Except ε β} {b : β} (h : x >>= f = .ok b) :
    ∃ a, x = .ok a ∧ f a = .ok b :=
  bind_eq_ok_iff.mp h

theorem seq_eq_ok_iff {x : Except ε PUnit} {y : Except ε β} {b : β} :
    (x >>= fun _ => y) = .ok b ↔ x = .ok ⟨⟩ ∧ y = .ok b := by
  rw [bind_eq_ok_iff]
  constructor
  · rintro ⟨⟨⟩, first, rest⟩
    exact ⟨first, rest⟩
  · rintro ⟨first, rest⟩
    exact ⟨⟨⟩, first, rest⟩

theorem bind_eq_error {x : Except ε α} {f : α → Except ε β} {e : ε} (h : x >>= f = .error e) :
    x = .error e ∨ ∃ a, x = .ok a ∧ f a = .error e := by
  cases x with
  | error e' =>
    cases h
    exact .inl rfl
  | ok a => exact .inr ⟨a, rfl, h⟩

theorem mapError_eq_error {ε' : Type u} {x : Except ε' α} {f : ε' → ε} {e : ε}
    (h : x.mapError f = .error e) : ∃ e', x = .error e' ∧ e = f e' := by
  cases x with
  | error e' =>
    cases h
    exact ⟨e', rfl, rfl⟩
  | ok a => cases h

theorem mapError_eq_ok_iff {ε' : Type u} {x : Except ε' α} {f : ε' → ε} {a : α} :
    x.mapError f = .ok a ↔ x = .ok a := by
  cases x <;> simp [Except.mapError]

theorem mapM_eq_ok {f : α → Except ε β} {as : List α} {bs : List β} (h : as.mapM f = .ok bs) :
    List.Forall₂ (fun a b => f a = .ok b) as bs := by
  induction as generalizing bs with
  | nil =>
    cases h
    exact .nil
  | cons a as ih =>
    rw [List.mapM_cons] at h
    obtain ⟨b, first, h⟩ := bind_eq_ok h
    obtain ⟨bs', rest, h⟩ := bind_eq_ok h
    cases h
    exact .cons first (ih rest)

theorem mapM_of_forall₂ {f : α → Except ε β} {as : List α} {bs : List β}
    (h : List.Forall₂ (fun a b => f a = .ok b) as bs) : as.mapM f = .ok bs := by
  induction h with
  | nil => rfl
  | cons first _ rest =>
    rw [List.mapM_cons, first, rest]
    rfl

theorem exists_mapM_eq_ok {f : α → Except ε β} {as : List α} (h : ∀ a ∈ as, ∃ b, f a = .ok b) :
    ∃ bs, as.mapM f = .ok bs := by
  induction as with
  | nil => exact ⟨[], rfl⟩
  | cons a as ih =>
    obtain ⟨b, first⟩ := h a List.mem_cons_self
    obtain ⟨bs, rest⟩ := ih fun a' mem => h a' (List.mem_cons_of_mem a mem)
    exact ⟨b :: bs, by rw [List.mapM_cons, first, rest]; rfl⟩

theorem forall_mem_mapM_iff {f : α → Except ε β} {as : List α} {bs : List β} {P : α → Prop}
    {Q : β → Prop} (h : as.mapM f = .ok bs) (same : ∀ a b, f a = .ok b → (P a ↔ Q b)) :
    (∀ a ∈ as, P a) ↔ ∀ b ∈ bs, Q b := by
  induction mapM_eq_ok h with
  | nil => simp
  | @cons a b as bs first rest ih =>
    simp only [List.forall_mem_cons, same a b first, ih (mapM_of_forall₂ rest)]

theorem exists_mapM_eq_ok_iff {f : α → Except ε β} {as : List α} :
    (∃ bs, as.mapM f = .ok bs) ↔ ∀ a ∈ as, ∃ b, f a = .ok b := by
  constructor
  · rintro ⟨bs, h⟩
    rw [forall_mem_mapM_iff (Q := fun _ => True) h]
    · simp
    · intro a b succeeded
      exact iff_true_intro ⟨b, succeeded⟩
  · exact exists_mapM_eq_ok

theorem forM_eq_ok_iff {f : α → Except ε PUnit} {as : List α} :
    as.forM f = .ok ⟨⟩ ↔ ∀ a ∈ as, f a = .ok ⟨⟩ := by
  induction as with
  | nil => exact ⟨fun _ => by simp, fun _ => rfl⟩
  | cons a as ih =>
    change (f a >>= fun _ => as.forM f) = _ ↔ _
    rw [seq_eq_ok_iff, List.forall_mem_cons, ih]

theorem forM_eq_error {f : α → Except ε PUnit} {as : List α} {e : ε} (h : as.forM f = .error e) :
    ∃ a ∈ as, f a = .error e := by
  induction as with
  | nil => cases h
  | cons a as ih =>
    change (f a >>= fun _ => as.forM f) = _ at h
    cases bind_eq_error h with
    | inl first => exact ⟨a, List.mem_cons_self, first⟩
    | inr h =>
      obtain ⟨u, -, rest⟩ := h
      obtain ⟨a', mem, failed⟩ := ih rest
      exact ⟨a', List.mem_cons_of_mem a mem, failed⟩

theorem mapM_eq_error_iff {f : α → Except ε β} {as : List α} {e : ε} :
    as.mapM f = .error e ↔ ∃ before a after, as = before ++ a :: after ∧
      (∀ a' ∈ before, ∃ b, f a' = .ok b) ∧ f a = .error e := by
  constructor
  · intro h
    induction as with
    | nil => cases h
    | cons a as ih =>
      rw [List.mapM_cons] at h
      cases bind_eq_error h with
      | inl first => exact ⟨[], a, as, rfl, by simp, first⟩
      | inr h =>
        obtain ⟨b, first, h⟩ := h
        cases bind_eq_error h with
        | inl rest =>
          obtain ⟨before, a', after, rfl, succeeded, failed⟩ := ih rest
          exact ⟨a :: before, a', after, rfl, List.forall_mem_cons.mpr ⟨⟨b, first⟩, succeeded⟩,
            failed⟩
        | inr h =>
          obtain ⟨bs, -, h⟩ := h
          cases h
  · rintro ⟨before, a, after, rfl, succeeded, failed⟩
    obtain ⟨bs, before_ok⟩ := exists_mapM_eq_ok succeeded
    rw [List.mapM_append, before_ok, List.mapM_cons, failed]
    rfl

theorem mapM_eq_error {f : α → Except ε β} {as : List α} {e : ε} (h : as.mapM f = .error e) :
    ∃ a ∈ as, f a = .error e := by
  obtain ⟨before, a, after, rfl, -, failed⟩ := mapM_eq_error_iff.mp h
  exact ⟨a, by simp, failed⟩

theorem run_bind {σ α β : Type} (x : StateM σ α) (f : α → StateM σ β) (c : σ) :
    (x >>= f).run c = (f (x.run c).1).run (x.run c).2 := rfl

end FleetHealth
