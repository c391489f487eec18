import FleetHealth.Object.Shape
import FleetHealth.Proofs.Json.Record
import FleetHealth.Proofs.Time.Instant
/-!
The written forms of values that are carried along are well formed, and stay as they are when they
are read again: the reader of a sound shape is stable. A shape is sound if none of its records has
two fields of one name, and the values written for missing fields are themselves written forms.
-/

namespace FleetHealth

open RawJson

namespace Shape

theorem exists_instant_of_normalTime {s : String} {v : Json} (h : normalTime s = some v) :
    ∃ t : Instant, v = .str t.renderSeconds := by
  obtain ⟨t, -, rfl⟩ := Option.map_eq_some_iff.mp h
  exact ⟨t, rfl⟩

theorem normalTime_renderSeconds (t : Instant) :
    normalTime t.renderSeconds = some (.str t.renderSeconds) := by
  rw [normalTime, Instant.parse?_renderSeconds, Option.map_some, Instant.renderSeconds_wholeSeconds]

theorem stable_time : Stable (fun j => j.str? >>= normalTime) id := by
  constructor
  · intro j v got
    obtain ⟨s, -, got⟩ := Option.bind_eq_some_iff.mp got
    obtain ⟨t, rfl⟩ := exists_instant_of_normalTime got
    simp only [id, ofJson, str?, Option.bind_eq_bind, Option.bind_some, normalTime_renderSeconds]
  · intro j v _ got
    obtain ⟨s, -, got⟩ := Option.bind_eq_some_iff.mp got
    obtain ⟨t, rfl⟩ := exists_instant_of_normalTime got
    exact Json.noConfusion

def FitsAlways (always : Option Json) (shape : Shape) : Prop :=
  ∀ d ∈ always, d ≠ .null ∧ normal? shape (ofJson d) = some d

structure StableField (field : String × Option Json × Shape) : Prop where
  stable : Stable (normal? field.2.2) id
  always : FitsAlways field.2.1 field.2.2

variable {fields : List (String × Option Json × Shape)} {source target : RawJson.Fields}
  {other : Json.Fields}

theorem names_of_normalFields? (got : normalFields? fields source = some other) :
    (other.map Prod.fst).Sublist (fields.map Prod.fst) := by
  induction fields generalizing other with
  | nil =>
    cases got
    exact .slnil
  | cons field fields ih =>
    obtain ⟨name, always, shape⟩ := field
    simp only [normalFields?, Option.bind_eq_bind, Option.bind_eq_some_iff, Option.pure_def,
      Option.some.injEq] at got
    obtain ⟨value, -, rest, gotRest, rfl⟩ := got
    cases value <|> always with
    | none => exact (ih gotRest).cons name
    | some v => exact (ih gotRest).cons_cons name

theorem StableField.optional {name : String} {always value : Option Json} {shape : Shape}
    (h : StableField (name, always, shape))
    (got : source.optional name (normal? shape) = some value)
    (holds : target.Holds name (value <|> always)) :
    ∃ again, target.optional name (normal? shape) = some again ∧
      (again <|> always) = (value <|> always) := by
  cases value with
  | some v => exact ⟨some v, h.stable.optional got holds, rfl⟩
  | none =>
    cases always with
    | none => exact ⟨none, Fields.optional_of_holds_none holds, rfl⟩
    | some d =>
      obtain ⟨other, reread⟩ := h.always d rfl
      exact ⟨some d, Fields.optional_of_holds_some holds other reread, rfl⟩

theorem normalFields?_reread (distinct : (fields.map Prod.fst).Nodup)
    (stable : ∀ field ∈ fields, StableField field) (got : normalFields? fields source = some other)
    (holds : ∀ field ∈ fields, target.Holds field.1 (other.lookup field.1)) :
    normalFields? fields target = some other := by
  induction fields generalizing other with
  | nil => exact got
  | cons field fields ih =>
    obtain ⟨name, always, shape⟩ := field
    simp only [normalFields?, Option.bind_eq_bind, Option.bind_eq_some_iff, Option.pure_def,
      Option.some.injEq] at got
    obtain ⟨value, gotValue, rest, gotRest, rfl⟩ := got
    rw [List.map_cons, List.nodup_cons] at distinct
    have fresh : rest.lookup name = none := by
      rw [List.lookup_eq_none_iff]
      intro e mem
      rw [bne_iff_ne]
      rintro rfl
      exact distinct.1 ((names_of_normalFields? gotRest).subset (List.mem_map_of_mem mem))
    have here : target.Holds name (value <|> always) := by
      have written := holds _ List.mem_cons_self
      rw [List.lookup_append] at written
      cases shown : value <|> always with
      | none => simpa [shown, fresh] using written
      | some v => simpa [shown] using written
    have there : ∀ field ∈ fields, target.Holds field.1 (rest.lookup field.1) := by
      intro field mem
      have written := holds _ (List.mem_cons_of_mem _ mem)
      have other : field.1 ≠ name := by
        intro same
        exact distinct.1 (List.mem_map.mpr ⟨field, mem, same⟩)
      rw [List.lookup_append] at written
      cases shown : value <|> always with
      | none => simpa [shown] using written
      | some v => simpa [shown, List.lookup_cons, beq_eq_false_iff_ne.mpr other] using written
    obtain ⟨again, gotAgain, same⟩ := (stable _ List.mem_cons_self).optional gotValue here
    have restAgain :=
      ih distinct.2 (fun field mem => stable field (List.mem_cons_of_mem _ mem)) gotRest there
    rw [normalFields?, gotAgain, restAgain]
    simp only [Option.bind_eq_bind, Option.bind_some, Option.pure_def, same]

theorem stable_record (distinct : (fields.map Prod.fst).Nodup)
    (stable : ∀ field ∈ fields, StableField field) :
    Stable (fun j => (j.fields? >>= normalFields? fields).map .obj) id := by
  constructor
  · intro j v got
    obtain ⟨other, gotFields, rfl⟩ := Option.map_eq_some_iff.mp got
    obtain ⟨source, -, gotFields⟩ := Option.bind_eq_some_iff.mp gotFields
    have names := names_of_normalFields? gotFields
    have written : ofJson (.obj other) =
        obj (recordFields ([] ++ other.map fun e => (e.1, some e.2))) := by
      simp [ofJson, recordFields, Json.record, Json.fields, List.filterMap_map]
    have reread : normalFields? fields
        (recordFields ([] ++ other.map fun e => (e.1, some e.2))) = some other := by
      apply normalFields?_reread distinct stable gotFields
      intro field _
      apply holds_lookup
      · simpa [Function.comp_def] using names.nodup distinct
      · exact List.not_mem_nil
    rw [id, written, fields?]
    simp only [Option.bind_eq_bind, Option.bind_some, reread, Option.map_some]
  · intro j v _ got
    obtain ⟨other, -, rfl⟩ := Option.map_eq_some_iff.mp got
    exact Json.noConfusion

mutual

/-- Records have no two fields of one name, and what is written for missing fields fits. -/
def Sound : Shape → Prop
  | .list element => Sound element
  | .map value => Sound value
  | .record fields => (fields.map Prod.fst).Nodup ∧ SoundFields fields
  | _ => True

def SoundFields : List (String × Option Json × Shape) → Prop
  | [] => True
  | (_, always, shape) :: fields => FitsAlways always shape ∧ Sound shape ∧ SoundFields fields

end

mutual

theorem stable_of_sound : (s : Shape) → s.Sound → Stable (normal? s) id
  | .text, _ => stable_str.written.congr fun j => by rw [normal?]
  | .int32, _ => stable_int32.written.congr fun j => by rw [normal?]
  | .int64, _ => stable_int64.written.congr fun j => by rw [normal?]
  | .bool, _ => stable_bool.written.congr fun j => by rw [normal?]
  | .time, _ => stable_time.congr fun j => by rw [normal?]
  | .opaqueValue, _ => stable_value.congr fun j => by rw [normal?]
  | .list element, h => by
    rw [Sound] at h
    exact (stable_of_sound element h).list.written.congr fun j => by simp [normal?]
  | .map value, h => by
    rw [Sound] at h
    exact (stable_of_sound value h).map.written.congr fun j => by simp [normal?]
  | .record fields, h => by
    rw [Sound] at h
    exact (stable_record h.1 (stableFields_of_sound fields h.2)).congr fun j => by rw [normal?]

theorem stableFields_of_sound : (fields : List (String × Option Json × Shape)) →
    SoundFields fields → ∀ field ∈ fields, StableField field
  | [], _ => fun _ mem => absurd mem List.not_mem_nil
  | (_, always, shape) :: fields, h => by
    rw [SoundFields] at h
    obtain ⟨fits, sound, rest⟩ := h
    intro field mem
    rcases List.mem_cons.mp mem with rfl | mem
    · exact ⟨stable_of_sound shape sound, fits⟩
    · exact stableFields_of_sound fields rest field mem

end

end Shape

end FleetHealth
