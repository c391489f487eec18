import FleetHealth.Text.Blank
/-!
Reading a text from left to right. A scanner takes some characters and gives back a value, or
refuses; what it leaves is for the next one.
-/

namespace FleetHealth.Text

abbrev Scan (α : Type) := StateT (List Char) Option α

namespace Scan

/-- What a scanner makes of a whole text; nothing may be left over. -/
def whole? {α : Type} (p : Scan α) (cs : List Char) : Option α :=
  match p cs with
  | some (a, []) => some a
  | _ => none

def refuse {α : Type} : Scan α := fun _ => none

def upTo (most : Nat) (p : Char → Bool) : Scan (List Char) := fun cs =>
  let run := (cs.take most).takeWhile p
  some (run, cs.drop run.length)

def run (p : Char → Bool) : Scan (List Char) := fun cs => some (cs.takeWhile p, cs.dropWhile p)

def blanks : Scan Unit := fun cs => some ((), trimLeft cs)

def one (p : Char → Bool) : Scan Char := fun cs =>
  match cs with
  | c :: cs => if p c then some (c, cs) else none
  | [] => none

def literal (c : Char) : Scan Unit := fun cs =>
  match cs with
  | d :: cs => if d = c then some ((), cs) else none
  | [] => none

def tryLiteral (c : Char) : Scan Bool := fun cs =>
  match cs with
  | d :: ds => if d = c then some (true, ds) else some (false, cs)
  | [] => some (false, cs)

def digitsUpTo (most : Nat) : Scan (List Char) := do
  let ds ← upTo most Char.isDigit
  if ds.isEmpty then refuse else return ds

def digits : Scan (List Char) := do
  let ds ← run Char.isDigit
  if ds.isEmpty then refuse else return ds

def twoDigits : Scan (List Char) := do
  return [← one Char.isDigit, ← one Char.isDigit]

end Scan

/-! A run of characters ends where one stands that is not of the kind. -/

variable {p : Char → Bool} {body rest : List Char}

theorem takeWhile_append_stop (inside : ∀ c ∈ body, p c = true)
    (stop : ∀ c, rest.head? = some c → p c = false) : (body ++ rest).takeWhile p = body := by
  rw [List.takeWhile_append_of_pos inside]
  cases rest with
  | nil => simp
  | cons c rest => simp [stop c rfl]

theorem dropWhile_append_stop (inside : ∀ c ∈ body, p c = true)
    (stop : ∀ c, rest.head? = some c → p c = false) : (body ++ rest).dropWhile p = rest := by
  rw [List.dropWhile_append_of_pos inside]
  cases rest with
  | nil => rfl
  | cons c rest => simp [stop c rfl]

end FleetHealth.Text
