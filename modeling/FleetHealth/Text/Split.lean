namespace FleetHealth.Text

/-- The texts between the separators, of which there is one more than separators. -/
def splitAll (sep : Char) : List Char → List (List Char)
  | [] => [[]]
  | c :: cs =>
    if c = sep then [] :: splitAll sep cs
    else match splitAll sep cs with
      | [] => [[c]]
      | part :: parts => (c :: part) :: parts

def splitFirst? (sep : Char) : List Char → Option (List Char × List Char)
  | [] => none
  | c :: cs =>
    if c = sep then some ([], cs)
    else (splitFirst? sep cs).map fun (before, after) => (c :: before, after)

theorem splitAll_ne_nil (sep : Char) (cs : List Char) : splitAll sep cs ≠ [] := by
  cases cs with
  | nil => simp [splitAll]
  | cons c cs =>
    rw [splitAll]
    split
    · simp
    · split <;> simp

theorem splitAll_eq_splitOn (sep : Char) (cs : List Char) : splitAll sep cs = cs.splitOn sep := by
  induction cs with
  | nil => simp [splitAll]
  | cons c cs ih =>
    rw [splitAll, List.splitOn_cons_eq_if_modifyHead, ih]
    simp only [beq_iff_eq]
    split
    · rfl
    · cases h : cs.splitOn sep with
      | nil => exact absurd (ih.trans h) (splitAll_ne_nil sep cs)
      | cons part parts => rfl

theorem splitAll_of_not_mem {sep : Char} {cs : List Char} (h : sep ∉ cs) :
    splitAll sep cs = [cs] := by
  rw [splitAll_eq_splitOn, List.splitOn_eq_singleton h]

theorem intercalate_splitAll (sep : Char) (cs : List Char) :
    [sep].intercalate (splitAll sep cs) = cs := by
  rw [splitAll_eq_splitOn, List.intercalate_splitOn]

theorem splitAll_intercalate {sep : Char} {parts : List (List Char)} (nonempty : parts ≠ [])
    (fresh : ∀ part ∈ parts, sep ∉ part) : splitAll sep ([sep].intercalate parts) = parts := by
  rw [splitAll_eq_splitOn, List.splitOn_intercalate sep fresh nonempty]

theorem splitFirst?_eq_none_iff {sep : Char} {cs : List Char} :
    splitFirst? sep cs = none ↔ sep ∉ cs := by
  induction cs with
  | nil => simp [splitFirst?]
  | cons c cs ih =>
    rw [splitFirst?]
    by_cases h : c = sep
    · simp [h]
    · rw [if_neg h, Option.map_eq_none_iff, ih]
      simp [Ne.symm h]

theorem splitFirst?_eq_some_iff {sep : Char} {cs before after : List Char} :
    splitFirst? sep cs = some (before, after) ↔ cs = before ++ sep :: after ∧ sep ∉ before := by
  induction cs generalizing before with
  | nil => simp [splitFirst?]
  | cons c cs ih =>
    rw [splitFirst?]
    by_cases h : c = sep
    · rw [if_pos h]
      cases before with
      | nil => simp [h]
      | cons b before =>
        simp only [h, Option.some.injEq, Prod.mk.injEq, List.cons_append, List.cons.injEq]
        simp +contextual
    · rw [if_neg h, Option.map_eq_some_iff]
      constructor
      · rintro ⟨⟨before', after'⟩, found, eq⟩
        cases eq
        obtain ⟨rfl, fresh⟩ := ih.mp found
        exact ⟨rfl, by simp [Ne.symm h, fresh]⟩
      · rintro ⟨eq, fresh⟩
        cases before with
        | nil => exact absurd (List.cons.inj eq).1 h
        | cons b before =>
          cases eq
          exact ⟨(before, after), ih.mpr ⟨rfl, List.not_mem_of_not_mem_cons fresh⟩, rfl⟩

end FleetHealth.Text
