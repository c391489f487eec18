import FleetHealth.Json.Basic
import FleetHealth.Table
import FleetHealth.Text.Numeral
/-!
What a JSON text says, before it is known what of it matters. An object may have several fields of
one name, and parts of a text may be void: well formed, but without a value. Void parts only matter
where they are read; the fields that a reader does not ask for can hold anything.
-/

namespace FleetHealth

inductive RawJson where
  /-- A numeral out of range, half of a character, or containers nested too deeply. -/
  | void
  | null
  | bool (b : Bool)
  | int (n : Int)
  | real (x : Binary64)
  | str (s : String)
  | arr (elements : List RawJson)
  | obj (fields : List (String × RawJson))
  deriving Repr, Inhabited

namespace RawJson

mutual

/-- The value that is meant, if no part of it is void. Of several fields of one name the last one
counts. -/
def value? : RawJson → Option Json
  | void => none
  | null => some .null
  | bool b => some (.bool b)
  | int n => some (.int n)
  | real x => some (.real x)
  | str s => some (.str s)
  | arr elements => (elementValues? elements).map .arr
  | obj fields => (fieldValues? fields).map fun fields => .obj (Table.ofList fields).toList

def elementValues? : List RawJson → Option (List Json)
  | [] => some []
  | v :: vs => do return (← value? v) :: (← elementValues? vs)

def fieldValues? : List (String × RawJson) → Option Json.Fields
  | [] => some []
  | (k, v) :: fields => do return (k, ← value? v) :: (← fieldValues? fields)

end

mutual

def ofJson : Json → RawJson
  | .null => null
  | .bool b => bool b
  | .int n => int n
  | .real x => real x
  | .str s => str s
  | .arr elements => arr (ofElements elements)
  | .obj fields => obj (ofFields fields)

def ofElements : List Json → List RawJson
  | [] => []
  | v :: vs => ofJson v :: ofElements vs

def ofFields : Json.Fields → List (String × RawJson)
  | [] => []
  | (k, v) :: fields => (k, ofJson v) :: ofFields fields

end

theorem fieldValues?_ofFields {fields : Json.Fields}
    (h : ∀ e ∈ fields, (ofJson e.2).value? = some e.2) :
    fieldValues? (ofFields fields) = some fields := by
  induction fields with
  | nil => rfl
  | cons e fields ih =>
    have rest := ih fun e he => h e (by simp [he])
    simp [ofFields, fieldValues?, h e (by simp), rest]

mutual

theorem value?_ofJson : (r : RawJson) → {v : Json} → r.value? = some v → (ofJson v).value? = some v
  | void, _, h => by simp [value?] at h
  | null, _, h | bool _, _, h | int _, _, h | real _, _, h | str _, _, h => by
    cases h
    rfl
  | arr elements, _, h => by
    obtain ⟨vs, hvs, rfl⟩ := Option.map_eq_some_iff.mp h
    simp [ofJson, value?, elementValues?_ofElements elements hvs]
  | obj fields, _, h => by
    obtain ⟨fs, hfs, rfl⟩ := Option.map_eq_some_iff.mp h
    have entries := fieldValues?_ofFields fun e he =>
      value?_ofJson_of_mem fields hfs e (Table.mem_of_mem_ofList he)
    simp [ofJson, value?, entries]

theorem elementValues?_ofElements : (rs : List RawJson) → {vs : List Json} →
    elementValues? rs = some vs → elementValues? (ofElements vs) = some vs
  | [], _, h => by
    cases h
    rfl
  | r :: rs, vs, h => by
    simp only [elementValues?, Option.bind_eq_bind, Option.bind_eq_some_iff, Option.pure_def,
      Option.some.injEq] at h
    obtain ⟨v, hv, vs, hvs, rfl⟩ := h
    simp [ofElements, elementValues?, value?_ofJson r hv, elementValues?_ofElements rs hvs]

theorem value?_ofJson_of_mem : (rs : List (String × RawJson)) → {fields : Json.Fields} →
    fieldValues? rs = some fields → ∀ e ∈ fields, (ofJson e.2).value? = some e.2
  | [], _, h => by
    cases h
    simp
  | (k, r) :: rs, _, h => by
    simp only [fieldValues?, Option.bind_eq_bind, Option.bind_eq_some_iff, Option.pure_def,
      Option.some.injEq] at h
    obtain ⟨v, hv, fields, hfields, rfl⟩ := h
    intro e he
    rcases List.mem_cons.mp he with rfl | he
    · exact value?_ofJson r hv
    · exact value?_ofJson_of_mem rs hfields e he

end

variable {α : Type}

def str? : RawJson → Option String
  | str s => some s
  | _ => none

def bool? : RawJson → Option Bool
  | bool b => some b
  | _ => none

def intWithin? (least greatest : Int) : RawJson → Option Int
  | int n => if least ≤ n ∧ n ≤ greatest then some n else none
  | _ => none

def int32? : RawJson → Option Int := intWithin? (-2147483648) 2147483647

def int64? : RawJson → Option Int := intWithin? (-9223372036854775808) 9223372036854775807

def natOfBits? (bits : Nat) (j : RawJson) : Option Nat :=
  (intWithin? 0 ((1 <<< bits : Nat) - 1) j).map Int.toNat

def nullable? (f : RawJson → Option α) : RawJson → Option (Option α)
  | null => some none
  | j => (f j).map some

def list? (f : RawJson → Option α) : RawJson → Option (List α)
  | arr elements => elements.mapM f
  | _ => none

abbrev Fields := List (String × RawJson)

def fields? : RawJson → Option Fields
  | obj fields => some fields
  | _ => none

def map? (f : RawJson → Option α) (j : RawJson) : Option (Table String α) := do
  return Table.ofList (← (← j.fields?).mapM fun (k, v) => do return (k, ← f v))

namespace Fields

def named (fields : Fields) (name : String) : List RawJson :=
  (fields.filter (·.1 == name)).map Prod.snd

def isSingle (fields : Fields) (name : String) : Bool := (fields.named name).length ≤ 1

/-- The last value of a field, if there is one. All values of it have to decode. -/
def last? (fields : Fields) (name : String) (f : RawJson → Option α) : Option (Option α) :=
  ((fields.named name).mapM f).map List.getLast?

def required (fields : Fields) (name : String) (f : RawJson → Option α) : Option α :=
  (fields.last? name f).join

def optional (fields : Fields) (name : String) (f : RawJson → Option α) : Option (Option α) :=
  (fields.last? name (nullable? f)).map Option.join

/-- A field that has a value of its own when it is absent, but cannot be null. -/
def defaulted (fields : Fields) (name : String) (default : α) (f : RawJson → Option α) : Option α :=
  (fields.last? name f).map (·.getD default)

/-- A field that has a value of its own when it is absent or null. -/
def orElse (fields : Fields) (name : String) (default : α) (f : RawJson → Option α) : Option α :=
  (fields.optional name f).map (·.getD default)

end Fields

/-- The fields of a record with the given field names, none of which can be repeated. A record may
also be written as the list of its values in this order; such a list cannot be too long, or too
short for the fields that have to be in it. -/
def record? (names : List String) (least : Nat) : RawJson → Option Fields
  | obj fields => if names.all (Fields.isSingle fields) then some fields else none
  | arr values =>
    if least ≤ values.length ∧ values.length ≤ names.length then some (names.zip values) else none
  | _ => none

end RawJson

end FleetHealth
