import FleetHealth.Proofs.Duration.Language
import Mathlib.Algebra.BigOperators.Group.List.Basic
import Mathlib.Algebra.Order.Floor.Semifield
import Mathlib.Data.Rat.Floor
/-!
How durations are rounded. Each term counts with its digits up to the eighteenth after the point,
rounded down to the nanosecond. In units up to the second the digits beyond make no difference to
that. In minutes and hours they can complete one more nanosecond, which is then missing.
-/

namespace FleetHealth.Duration

open Text Term

def Term.kept (t : Term) : Term := { t with fraction := t.fraction.take fractionDigits }

/-- The digits that do not count would have completed a nanosecond. -/
def Term.fallsShort (t : Term) : Bool := ⌊t.kept.exact⌋₊ < ⌊t.exact⌋₊

def coarseUnits : List (List Char) := [['m'], ['h']]

theorem ofDigits_lt {ds : List Char} (digits : ∀ c ∈ ds, c.isDigit = true) :
    ofDigits ds < tenTo ds.length := by
  induction ds with
  | nil => simp
  | cons d ds ih =>
    have rest := ih fun c mem => digits c (List.mem_cons_of_mem d mem)
    have first : digitValue d ≤ 9 := by
      have digit := digits d List.mem_cons_self
      simp only [Char.isDigit, Bool.and_eq_true, decide_eq_true_eq, UInt32.le_iff_toNat_le] at digit
      have upper : d.toNat ≤ 57 := digit.2
      rw [digitValue, show '0'.toNat = 48 from rfl]
      omega
    have split := ofDigits_append [d] ds
    have value : ofDigits [d] = digitValue d := by simp [ofDigits, addDigit]
    rw [List.singleton_append, value] at split
    rw [split, List.length_cons, tenTo_succ]
    calc digitValue d * tenTo ds.length + ofDigits ds
        ≤ 9 * tenTo ds.length + ofDigits ds :=
          Nat.add_le_add_right (Nat.mul_le_mul_right _ first) _
      _ < 10 * tenTo ds.length := by omega

/-! Cutting digits off a scaled fraction: `b` is what is cut off, below the last digit of `a`. -/

section Cut

variable {a b p q s : Nat}

theorem scaled_div_le (low : b < q) (small : s ≤ p) (pos : 0 < p) :
    (a * q + b) * s / (p * q) ≤ a * s / p + 1 := by
  have q_pos : 0 < q := Nat.zero_lt_of_lt low
  calc (a * q + b) * s / (p * q)
      ≤ (a * q + q) * s / (p * q) := by gcongr
    _ = (a * s + s) * q / (p * q) := by congr 1; ring
    _ = (a * s + s) / p := Nat.mul_div_mul_right _ _ q_pos
    _ ≤ (a * s + p) / p := by gcongr
    _ = a * s / p + 1 := Nat.add_div_right _ pos

theorem scaled_div_of_dvd (low : b < q) (dvd : s ∣ p) (pos : 0 < s) :
    (a * q + b) * s / (p * q) = a * s / p := by
  obtain ⟨m, rfl⟩ := dvd
  have q_pos : 0 < q := Nat.zero_lt_of_lt low
  have cut : (a * q + b) / q = a := by
    rw [Nat.add_comm, Nat.add_mul_div_right _ _ q_pos, Nat.div_eq_of_lt low, Nat.zero_add]
  calc (a * q + b) * s / (s * m * q)
      = (a * q + b) * s / (q * m * s) := by congr 1; ring
    _ = (a * q + b) / q / m := by rw [Nat.mul_div_mul_right _ _ pos, Nat.div_div_eq_div_mul]
    _ = a * s / (m * s) := by rw [cut, Nat.mul_div_mul_right _ _ pos]
    _ = a * s / (s * m) := by rw [Nat.mul_comm m s]

end Cut

theorem scale_le (unit : List Char) : (unitScale? unit).getD 0 ≤ tenTo fractionDigits := by
  cases known : unitScale? unit with
  | none => simp
  | some scale =>
    have all : ∀ u ∈ unitScales, u.2 ≤ tenTo fractionDigits := by decide
    obtain ⟨before, after, eq, -⟩ := List.lookup_eq_some_iff.mp known
    exact all (unit, scale) (by simp [eq])

theorem scale_dvd {unit : List Char} (mem : unit ∈ units) (fine : unit ∉ coarseUnits) :
    (unitScale? unit).getD 0 ∣ tenTo fractionDigits := by
  have all : ∀ unit ∈ units, unit ∉ coarseUnits →
      (unitScale? unit).getD 0 ∣ tenTo fractionDigits := by decide
  exact all unit mem fine

namespace Term

variable {t : Term}

theorem floor_exact (t : Term) : ⌊t.exact⌋₊ =
    ofDigits t.whole * t.scale + ofDigits t.fraction * t.scale / tenTo t.fraction.length := by
  have parts : t.exact = (ofDigits t.fraction * t.scale : Nat) / (tenTo t.fraction.length : Nat) +
      (ofDigits t.whole * t.scale : Nat) := by
    rw [Term.exact, cast_tenTo]
    push_cast
    ring
  rw [parts, Nat.floor_add_natCast (by positivity), Nat.floor_div_eq_div, Nat.add_comm]

theorem floor_exact_kept (t : Term) : ⌊t.kept.exact⌋₊ = t.value := floor_exact t.kept

theorem floor_exact_of_short (short : t.fraction.length ≤ fractionDigits) :
    ⌊t.exact⌋₊ = t.value := by
  have kept : t.kept = t := by rw [kept, List.take_of_length_le short]
  rw [← floor_exact_kept, kept]

theorem floor_exact_of_long (long : fractionDigits ≤ t.fraction.length) : ⌊t.exact⌋₊ =
    ofDigits t.whole * t.scale +
      (ofDigits (t.fraction.take fractionDigits) * tenTo (t.fraction.drop fractionDigits).length +
        ofDigits (t.fraction.drop fractionDigits)) * t.scale /
          (tenTo fractionDigits * tenTo (t.fraction.drop fractionDigits).length) := by
  rw [floor_exact, ← ofDigits_append, List.take_append_drop, ← tenTo_add, List.length_drop,
    Nat.add_sub_cancel' long]

theorem value_of_long (long : fractionDigits ≤ t.fraction.length) : t.value =
    ofDigits t.whole * t.scale +
      ofDigits (t.fraction.take fractionDigits) * t.scale / tenTo fractionDigits := by
  rw [value, fractionNanos, List.length_take_of_le long]

theorem WellFormed.dropped_lt (formed : t.WellFormed) :
    ofDigits (t.fraction.drop fractionDigits) < tenTo (t.fraction.drop fractionDigits).length :=
  ofDigits_lt fun c mem => formed.fraction c (List.mem_of_mem_drop mem)

theorem WellFormed.floor_exact_le (formed : t.WellFormed) : ⌊t.exact⌋₊ ≤ t.value + 1 := by
  cases Nat.le_total t.fraction.length fractionDigits with
  | inl short => exact (floor_exact_of_short short).le.trans (Nat.le_succ _)
  | inr long =>
    rw [floor_exact_of_long long, value_of_long long, Nat.add_assoc]
    apply Nat.add_le_add_left
    exact scaled_div_le formed.dropped_lt (scale_le t.unit) (tenTo_pos _)

theorem WellFormed.floor_exact_of_fine (formed : t.WellFormed) (fine : t.unit ∉ coarseUnits) :
    ⌊t.exact⌋₊ = t.value := by
  cases Nat.le_total t.fraction.length fractionDigits with
  | inl short => exact floor_exact_of_short short
  | inr long =>
    rw [floor_exact_of_long long, value_of_long long]
    congr 1
    exact scaled_div_of_dvd formed.dropped_lt (scale_dvd formed.unit fine) (scale_pos formed.unit).2

theorem WellFormed.floor_exact_eq (formed : t.WellFormed) :
    ⌊t.exact⌋₊ = t.value + if t.fallsShort then 1 else 0 := by
  have lower : t.value ≤ ⌊t.exact⌋₊ := Nat.le_floor t.value_le_exact
  have upper := formed.floor_exact_le
  simp only [fallsShort, floor_exact_kept, decide_eq_true_eq]
  split <;> omega

theorem WellFormed.coarse_of_fallsShort (formed : t.WellFormed) (short : t.fallsShort = true) :
    t.unit ∈ coarseUnits ∧ fractionDigits < t.fraction.length := by
  simp only [fallsShort, floor_exact_kept, decide_eq_true_eq] at short
  constructor
  · by_contra fine
    exact short.ne' (formed.floor_exact_of_fine fine)
  · by_contra few
    exact short.ne' (floor_exact_of_short (Nat.le_of_not_lt few))

end Term

variable {t : Term} {ts : List Term} {body : List Char} {input : String} {d : Duration}

theorem sum_floor_exact (formed : ∀ t ∈ ts, t.WellFormed) :
    (ts.map fun t => ⌊t.exact⌋₊).sum = (ts.map Term.value).sum + ts.countP Term.fallsShort := by
  induction ts with
  | nil => rfl
  | cons t ts ih =>
    obtain ⟨first, rest⟩ := List.forall_mem_cons.mp formed
    simp only [List.map_cons, List.sum_cons, List.countP_cons, ih rest, first.floor_exact_eq]
    omega

/-- An accepted text counts for its terms up to the eighteenth digit, each rounded down. It is short
of the exact terms, each rounded down, by one nanosecond for every term that falls short, which only
one in minutes or hours with more digits can do. -/
theorem parse_rounds (written : Written ts body) (nonempty : ts ≠ [])
    (sign : trim input.toList = body ∨ trim input.toList = '+' :: body)
    (accepted : parse input = .ok d) :
    d.nanos = (ts.map fun t => ⌊t.kept.exact⌋₊).sum ∧
      d.nanos + ts.countP Term.fallsShort = (ts.map fun t => ⌊t.exact⌋₊).sum ∧
      ∀ t ∈ ts, t.fallsShort = true →
        t.unit ∈ coarseUnits ∧ fractionDigits < t.fraction.length := by
  have sum := (parse_eq_ok_iff_of_written written nonempty sign).mp accepted
  refine ⟨?_, ?_, ?_⟩
  · simp only [sum, floor_exact_kept]
  · rw [sum, sum_floor_exact written.wellFormed]
  · intro t mem
    exact (written.wellFormed t mem).coarse_of_fallsShort

/-- Digits of an hour: 4.00000032 ns, but 3.9999996 ns up to the eighteenth. -/
def hourDigits : Term := ⟨['0'], "0000000000011111112".toList, ['h']⟩

/-- Digits of a minute: 2.000000004 ns, but 1.99999998 ns up to the eighteenth. -/
def minuteDigits : Term := ⟨[], "0000000000333333334".toList, ['m']⟩

theorem written_hourDigits : Written [hourDigits] "0.0000000000011111112h".toList :=
  .cons (t := hourDigits) (by decide) .pointed .nil

theorem ten_seconds_round :
    parse " +10s.0000000000333333334m" = .ok ⟨10000000001, by decide⟩ ∧
      10000000001 + [⟨['1', '0'], [], ['s']⟩, minuteDigits].countP Term.fallsShort =
        ([⟨['1', '0'], [], ['s']⟩, minuteDigits].map fun t => ⌊t.exact⌋₊).sum := by
  have written : Written [⟨['1', '0'], [], ['s']⟩, minuteDigits]
      "10s.0000000000333333334m".toList :=
    .cons (by decide) (.plain rfl) (.cons (t := minuteDigits) (by decide) .pointed .nil)
  have sign : trim " +10s.0000000000333333334m".toList =
      '+' :: "10s.0000000000333333334m".toList := by decide
  have accepted : parse " +10s.0000000000333333334m" = .ok ⟨10000000001, by decide⟩ := by
    rw [parse_eq_ok_iff_of_written written (by simp) (.inr sign)]
    decide +kernel
  exact ⟨accepted, (parse_rounds written (by simp) (.inr sign) accepted).2.1⟩

/-- The last digit is read over, though it makes four nanoseconds of three. -/
theorem late_digit_lost :
    Written [hourDigits] "0.0000000000011111112h".toList ∧
      parse "0.0000000000011111112h" = .ok ⟨3, by decide⟩ ∧
      ([hourDigits].map fun t => ⌊t.exact⌋₊).sum = 4 := by
  refine ⟨written_hourDigits, ?_, ?_⟩
  · rw [parse_eq_ok_iff_of_written written_hourDigits (by simp) (.inl (by decide))]
    decide +kernel
  · rw [List.map_singleton, List.sum_singleton, floor_exact]
    decide +kernel

end FleetHealth.Duration
