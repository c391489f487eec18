import FleetHealth.Number.Binary64
/-!
JSON values. Integers of 64 bits are kept apart from all other numbers. The values that are read
have objects without two fields of one name, in the order of the names.
-/

namespace FleetHealth

inductive Json where
  | null
  | bool (b : Bool)
  | int (n : Int)
  | real (x : Binary64)
  | str (s : String)
  | arr (elements : List Json)
  | obj (fields : List (String × Json))
  deriving Repr, Inhabited

namespace Json

mutual

/-- Equality of values, fields in the same order. -/
def same : Json → Json → Bool
  | null, null => true
  | bool a, bool b => a == b
  | int a, int b => a == b
  | real a, real b => a == b
  | str a, str b => a == b
  | arr as, arr bs => sameElements as bs
  | obj as, obj bs => sameFields as bs
  | _, _ => false

def sameElements : List Json → List Json → Bool
  | [], [] => true
  | a :: as, b :: bs => same a b && sameElements as bs
  | _, _ => false

def sameFields : List (String × Json) → List (String × Json) → Bool
  | [], [] => true
  | (k, a) :: as, (l, b) :: bs => k == l && same a b && sameFields as bs
  | _, _ => false

end

mutual

theorem same_iff : (a b : Json) → (same a b = true ↔ a = b)
  | a, b => by
    cases a <;> cases b <;> simp only [same, reduceCtorEq, Bool.false_eq_true, bool.injEq,
      int.injEq, real.injEq, str.injEq, arr.injEq, obj.injEq, beq_iff_eq]
    · exact sameElements_iff ..
    · exact sameFields_iff ..

theorem sameElements_iff : (as bs : List Json) → (sameElements as bs = true ↔ as = bs)
  | [], [] | [], _ :: _ | _ :: _, [] => by simp [sameElements]
  | a :: as, b :: bs => by simp [sameElements, same_iff a b, sameElements_iff as bs]

theorem sameFields_iff : (as bs : List (String × Json)) → (sameFields as bs = true ↔ as = bs)
  | [], [] | [], _ :: _ | _ :: _, [] => by simp [sameFields]
  | (k, a) :: as, (l, b) :: bs => by
    simp [sameFields, same_iff a b, sameFields_iff as bs, and_assoc]

end

instance : DecidableEq Json := fun a b => decidable_of_iff _ (same_iff a b)

abbrev Fields := List (String × Json)

def fields : Json → Fields
  | obj fields => fields
  | _ => []

def field? (j : Json) (name : String) : Option Json := j.fields.lookup name

def text? : Json → Option String
  | str s => some s
  | _ => none

def record (fields : List (String × Option Json)) : Json :=
  obj (fields.filterMap fun (k, v) => v.map fun v => (k, v))

def ofNat (n : Nat) : Json := int n

def ofOption {α : Type} (f : α → Json) : Option α → Json
  | some a => f a
  | none => null

def strings (ss : List String) : Json := arr (ss.map str)

end Json

end FleetHealth
