namespace FleetHealth.Text

abbrev Ranges := List (Nat × Nat)

namespace Ranges

def covers (rs : Ranges) (n : Nat) : Bool :=
  rs.any fun r => r.1 ≤ n && n ≤ r.2

def count (rs : Ranges) : Nat := rs.foldl (fun n r => n + (r.2 + 1 - r.1)) 0

/-- Ascending, and with a gap between neighbours. -/
def WellFormed : Ranges → Prop
  | [] => True
  | [r] => r.1 ≤ r.2
  | r :: s :: t => r.1 ≤ r.2 ∧ r.2 + 1 < s.1 ∧ WellFormed (s :: t)

instance decidableWellFormed : (rs : Ranges) → Decidable rs.WellFormed
  | [] => isTrue trivial
  | [r] => inferInstanceAs (Decidable (r.1 ≤ r.2))
  | r :: s :: t =>
    have := decidableWellFormed (s :: t)
    inferInstanceAs (Decidable (r.1 ≤ r.2 ∧ r.2 + 1 < s.1 ∧ WellFormed (s :: t)))

theorem covers_iff (rs : Ranges) (n : Nat) :
    rs.covers n = true ↔ ∃ r ∈ rs, r.1 ≤ n ∧ n ≤ r.2 := by
  simp [covers]

end Ranges

end FleetHealth.Text
