import FleetHealth.Json.Raw
import Mathlib.Data.List.Nodup
/-!
Records read back from what was written. A reader is stable under a way of writing if whatever it
has read from some text it reads again from the written form. For a record this comes down to its
fields: each of them is written once, or not at all if it has no value.
-/

namespace FleetHealth.RawJson

variable {α β : Type}

theorem exists_of_mem_mapM {f : α → Option β} {as : List α} {bs : List β} (h : as.mapM f = some bs)
    {b : β} (mem : b ∈ bs) : ∃ a ∈ as, f a = some b := by
  induction as generalizing bs with
  | nil =>
    cases h
    cases mem
  | cons a as ih =>
    simp only [List.mapM_cons, Option.bind_eq_bind, Option.bind_eq_some_iff, Option.pure_def,
      Option.some.injEq] at h
    obtain ⟨first, read, rest, readRest, rfl⟩ := h
    rcases List.mem_cons.mp mem with rfl | mem
    · exact ⟨a, List.mem_cons_self, read⟩
    · obtain ⟨a', mem', read'⟩ := ih readRest mem
      exact ⟨a', List.mem_cons_of_mem a mem', read'⟩

theorem mapM_map_eq_some {f : α → Option β} {g : β → α} {bs : List β}
    (h : ∀ b ∈ bs, f (g b) = some b) : (bs.map g).mapM f = some bs := by
  induction bs with
  | nil => rfl
  | cons b bs ih =>
    rw [List.map_cons, List.mapM_cons, h b List.mem_cons_self,
      ih fun b' mem => h b' (List.mem_cons_of_mem b mem)]
    rfl

theorem ofElements_eq_map (vs : List Json) : ofElements vs = vs.map ofJson := by
  induction vs with
  | nil => rfl
  | cons v vs ih => rw [ofElements, ih, List.map_cons]

theorem ofFields_eq_map (fields : Json.Fields) :
    ofFields fields = fields.map fun e => (e.1, ofJson e.2) := by
  induction fields with
  | nil => rfl
  | cons e fields ih => rw [ofFields, ih, List.map_cons]

/-- What a reader has read, it reads again from the written form, which is null only for null. -/
structure Stable (read : RawJson → Option α) (write : α → Json) : Prop where
  reread : ∀ {j a}, read j = some a → read (ofJson (write a)) = some a
  ne_null : ∀ {j a}, j ≠ null → read j = some a → write a ≠ .null

/-! ### Values -/

theorem stable_str : Stable str? .str := ⟨fun _ => rfl, fun _ _ => Json.noConfusion⟩

theorem stable_bool : Stable bool? .bool := ⟨fun _ => rfl, fun _ _ => Json.noConfusion⟩

theorem stable_int (least greatest : Int) : Stable (intWithin? least greatest) .int := by
  refine ⟨?_, fun _ _ => Json.noConfusion⟩
  intro j n h
  cases j with
  | int m =>
    obtain ⟨within, same⟩ := Option.ite_none_right_eq_some.mp h
    cases same
    exact if_pos within
  | _ => cases h

theorem stable_int32 : Stable int32? .int := stable_int ..

theorem stable_int64 : Stable int64? .int := stable_int ..

theorem stable_value : Stable value? id := by
  refine ⟨fun {j _} => value?_ofJson j, ?_⟩
  intro j v other h
  cases j with
  | null => exact absurd rfl other
  | void => cases h
  | arr elements =>
    obtain ⟨vs, -, rfl⟩ := Option.map_eq_some_iff.mp h
    exact Json.noConfusion
  | obj fields =>
    obtain ⟨fields', -, rfl⟩ := Option.map_eq_some_iff.mp h
    exact Json.noConfusion
  | _ =>
    cases h
    exact Json.noConfusion

theorem ofJson_ne_null {v : Json} (h : v ≠ .null) : ofJson v ≠ null := by
  cases v with
  | null => exact absurd rfl h
  | _ => exact RawJson.noConfusion

variable {read : RawJson → Option α} {write : α → Json}

theorem Stable.written (h : Stable read write) : Stable (fun j => (read j).map write) id := by
  constructor
  · intro j v got
    obtain ⟨a, readOne, rfl⟩ := Option.map_eq_some_iff.mp got
    dsimp only [id]
    rw [h.reread readOne, Option.map_some]
  · intro j v other got
    obtain ⟨a, readOne, rfl⟩ := Option.map_eq_some_iff.mp got
    exact h.ne_null other readOne

theorem Stable.congr {read' : RawJson → Option α} (h : Stable read write)
    (same : ∀ j, read' j = read j) : Stable read' write := by
  rwa [show read' = read from funext same]

theorem Stable.list (h : Stable read write) :
    Stable (list? read) fun as => .arr (as.map write) := by
  refine ⟨?_, fun _ _ => Json.noConfusion⟩
  intro j as got
  cases j with
  | arr elements =>
    change (ofElements (as.map write)).mapM read = some as
    rw [ofElements_eq_map, List.map_map]
    apply mapM_map_eq_some
    intro a mem
    obtain ⟨j, -, readOne⟩ := exists_of_mem_mapM got mem
    exact h.reread readOne
  | _ => cases got

theorem map?_obj (fields : Fields) :
    (obj fields).map? read =
      (fields.mapM fun e => (read e.2).map fun a => (e.1, a)).map Table.ofList := by
  simp only [map?, fields?, Option.map_eq_bind, Option.bind_eq_bind, Option.bind_some]
  rfl

theorem Stable.map (h : Stable read write) :
    Stable (map? read) fun t => .obj (t.toList.map fun e => (e.1, write e.2)) := by
  refine ⟨?_, fun _ _ => Json.noConfusion⟩
  intro j t got
  cases j with
  | obj fields =>
    rw [map?_obj] at got
    obtain ⟨entries, readAll, rfl⟩ := Option.map_eq_some_iff.mp got
    rw [ofJson, ofFields_eq_map, List.map_map, map?_obj, mapM_map_eq_some, Option.map_some,
      Table.ofList_toList]
    intro e mem
    obtain ⟨source, -, readOne⟩ := exists_of_mem_mapM readAll (Table.mem_of_mem_ofList mem)
    obtain ⟨a, readValue, rfl⟩ := Option.map_eq_some_iff.mp readOne
    rw [Function.comp_apply, h.reread readValue, Option.map_some]
  | _ => cases got

/-! ### Fields -/

namespace Fields

variable {fields : Fields} {name : String} {a d : α} {o : Option α}

def Holds (fields : Fields) (name : String) (value : Option Json) : Prop :=
  fields.named name = (value.map ofJson).toList

theorem Holds.isSingle {value : Option Json} (h : fields.Holds name value) :
    fields.isSingle name = true := by
  rw [Holds] at h
  cases value <;> simp [Fields.isSingle, h]

theorem last?_of_holds_none {f : RawJson → Option α} (h : fields.Holds name none) :
    fields.last? name f = some none := by
  rw [Holds] at h
  rw [last?, h]
  rfl

theorem last?_of_holds_some {f : RawJson → Option α} {v : Json} (h : fields.Holds name (some v))
    (got : f (ofJson v) = some a) : fields.last? name f = some (some a) := by
  rw [Holds] at h
  rw [last?, h]
  simp [got]

theorem exists_of_last? {f : RawJson → Option α} (h : fields.last? name f = some (some a)) :
    ∃ j, f j = some a := by
  obtain ⟨values, readAll, last⟩ := Option.map_eq_some_iff.mp h
  obtain ⟨j, -, got⟩ := exists_of_mem_mapM readAll (List.mem_of_getLast? last)
  exact ⟨j, got⟩

theorem exists_of_required {f : RawJson → Option α} (h : fields.required name f = some a) :
    ∃ j, f j = some a :=
  exists_of_last? (Option.join_eq_some_iff.mp h)

theorem required_of_holds {f : RawJson → Option α} {v : Json} (h : fields.Holds name (some v))
    (got : f (ofJson v) = some a) : fields.required name f = some a := by
  rw [required, last?_of_holds_some h got]
  rfl

theorem exists_of_optional {f : RawJson → Option α} (h : fields.optional name f = some (some a)) :
    ∃ j, j ≠ null ∧ f j = some a := by
  obtain ⟨last, got, joined⟩ := Option.map_eq_some_iff.mp h
  obtain rfl : last = some (some a) := by simpa [Option.join_eq_some_iff] using joined
  obtain ⟨j, got⟩ := exists_of_last? got
  cases j with
  | null => cases got
  | _ =>
    obtain ⟨a', got, same⟩ := Option.map_eq_some_iff.mp got
    cases same
    exact ⟨_, RawJson.noConfusion, got⟩

theorem nullable?_of_ne {f : RawJson → Option α} {j : RawJson} (h : j ≠ null) :
    nullable? f j = (f j).map some := by
  cases j with
  | null => exact absurd rfl h
  | _ => rfl

theorem optional_of_holds_some {f : RawJson → Option α} {v : Json}
    (h : fields.Holds name (some v)) (other : v ≠ .null) (got : f (ofJson v) = some a) :
    fields.optional name f = some (some a) := by
  have read : nullable? f (ofJson v) = some (some a) := by
    rw [nullable?_of_ne (ofJson_ne_null other), got, Option.map_some]
  rw [optional, last?_of_holds_some h read]
  rfl

theorem optional_of_holds_none {f : RawJson → Option α} (h : fields.Holds name none) :
    fields.optional name f = some none := by
  rw [optional, last?_of_holds_none h]
  rfl

end Fields

section Reread

variable {source fields : Fields} {name : String} {a d : α} {o : Option α}

theorem Stable.required (h : Stable read write) (got : source.required name read = some a)
    (holds : fields.Holds name (some (write a))) : fields.required name read = some a := by
  obtain ⟨j, read⟩ := Fields.exists_of_required got
  exact Fields.required_of_holds holds (h.reread read)

theorem Stable.optional (h : Stable read write) (got : source.optional name read = some o)
    (holds : fields.Holds name (o.map write)) : fields.optional name read = some o := by
  cases o with
  | none => exact Fields.optional_of_holds_none holds
  | some a =>
    obtain ⟨j, other, read⟩ := Fields.exists_of_optional got
    exact Fields.optional_of_holds_some holds (h.ne_null other read) (h.reread read)

theorem Stable.defaulted (h : Stable read write) (default : read (ofJson (write d)) = some d)
    (got : source.defaulted name d read = some a) (holds : fields.Holds name (some (write a))) :
    fields.defaulted name d read = some a := by
  have again : read (ofJson (write a)) = some a := by
    obtain ⟨last, found, value⟩ := Option.map_eq_some_iff.mp got
    cases last with
    | none =>
      cases value
      exact default
    | some b =>
      cases value
      obtain ⟨j, read⟩ := Fields.exists_of_last? found
      exact h.reread read
  rw [Fields.defaulted, Fields.last?_of_holds_some holds again]
  rfl

theorem Stable.orElse (h : Stable read write) (default : read (ofJson (write d)) = some d)
    (other : write d ≠ .null) (got : source.orElse name d read = some a)
    (holds : fields.Holds name (some (write a))) : fields.orElse name d read = some a := by
  obtain ⟨o, found, value⟩ := Option.map_eq_some_iff.mp got
  have again : fields.optional name read = some (some a) := by
    cases o with
    | none =>
      cases value
      exact Fields.optional_of_holds_some holds other default
    | some b =>
      cases value
      exact h.optional found holds
  rw [Fields.orElse, again]
  rfl

end Reread

/-! ### Records -/

def recordFields (parts : List (String × Option Json)) : Fields :=
  ofFields (Json.record parts).fields

theorem named_recordFields_cons (part : String × Option Json) (parts : List (String × Option Json))
    (name : String) : (recordFields (part :: parts)).named name =
      (if part.1 = name then (part.2.map ofJson).toList else []) ++
        (recordFields parts).named name := by
  obtain ⟨name', value⟩ := part
  cases value with
  | none => by_cases same : name' = name <;> simp [recordFields, Json.record, Json.fields, same]
  | some v =>
    by_cases same : name' = name <;>
      simp [recordFields, Json.record, Json.fields, ofFields, Fields.named, same]

theorem named_recordFields_of_not_mem {parts : List (String × Option Json)} {name : String}
    (h : name ∉ parts.map Prod.fst) : (recordFields parts).named name = [] := by
  induction parts with
  | nil => rfl
  | cons part parts ih =>
    simp only [List.map_cons, List.mem_cons, not_or] at h
    rw [named_recordFields_cons, if_neg (Ne.symm h.1), List.nil_append, ih h.2]

theorem holds_recordFields {parts : List (String × Option Json)}
    (distinct : (parts.map Prod.fst).Nodup) :
    ∀ e ∈ parts, (recordFields parts).Holds e.1 e.2 := by
  induction parts with
  | nil =>
    intro e mem
    cases mem
  | cons part parts ih =>
    rw [List.map_cons, List.nodup_cons] at distinct
    intro e mem
    rw [Fields.Holds, named_recordFields_cons]
    rcases List.mem_cons.mp mem with rfl | mem
    · rw [if_pos rfl, named_recordFields_of_not_mem distinct.1, List.append_nil]
    · have other : part.1 ≠ e.1 := by
        intro same
        exact distinct.1 (same ▸ List.mem_map_of_mem mem)
      rw [if_neg other, List.nil_append]
      exact ih distinct.2 e mem

theorem holds_lookup {parts : List (String × Option Json)} {other : Json.Fields} {name : String}
    (distinct : ((parts ++ other.map fun e => (e.1, some e.2)).map Prod.fst).Nodup)
    (fresh : name ∉ parts.map Prod.fst) :
    (recordFields (parts ++ other.map fun e => (e.1, some e.2))).Holds name
      (other.lookup name) := by
  cases found : other.lookup name with
  | none =>
    apply named_recordFields_of_not_mem
    intro mem
    rw [List.map_append, List.mem_append, or_iff_right fresh] at mem
    simp only [List.map_map, List.mem_map, Function.comp_apply] at mem
    obtain ⟨e, mem, rfl⟩ := mem
    simpa using List.lookup_eq_none_iff.mp found e mem
  | some v =>
    obtain ⟨before, after, rfl, -⟩ := List.lookup_eq_some_iff.mp found
    exact holds_recordFields distinct (name, some v) (by simp)

theorem record?_obj {fields : Fields} {names : List String} {least : Nat}
    (single : ∀ name ∈ names, fields.isSingle name = true) :
    (obj fields).record? names least = some fields :=
  if_pos (List.all_eq_true.mpr single)

theorem isSingle_of_holds {fields : Fields} {parts : List (String × Option Json)}
    (holds : ∀ e ∈ parts, fields.Holds e.1 e.2) :
    ∀ name ∈ parts.map Prod.fst, fields.isSingle name = true := by
  intro name mem
  obtain ⟨e, written, rfl⟩ := List.mem_map.mp mem
  exact (holds e written).isSingle

theorem Stable.of_record {parts : α → List (String × Option Json)}
    (distinct : ∀ a, ((parts a).map Prod.fst).Nodup)
    (reread : ∀ {j a}, read j = some a → ∀ {fields : Fields},
      (∀ e ∈ parts a, fields.Holds e.1 e.2) → read (obj fields) = some a) :
    Stable read fun a => Json.record (parts a) :=
  ⟨fun {_ a} got => reread got (holds_recordFields (distinct a)), fun _ _ => Json.noConfusion⟩

end FleetHealth.RawJson
