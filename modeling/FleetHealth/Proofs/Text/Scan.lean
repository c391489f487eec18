import FleetHealth.Text.Numeral
import FleetHealth.Text.Scan
import Mathlib.Tactic.IntervalCases

namespace FleetHealth.Text

theorem isDigit_iff {c : Char} : c.isDigit = true ↔ 48 ≤ c.toNat ∧ c.toNat ≤ 57 := by
  simp only [Char.isDigit, Bool.and_eq_true, decide_eq_true_eq, UInt32.le_iff_toNat_le]
  rfl

theorem isBlank_of_isDigit {c : Char} (h : c.isDigit = true) : isBlank c = false := by
  obtain ⟨least, greatest⟩ := isDigit_iff.mp h
  rw [isBlank]
  generalize c.toNat = n at least greatest
  interval_cases n <;> rfl

theorem toList_padded (width n : Nat) : (padded width n).toList =
    List.replicate (width - (Nat.toDigits 10 n).length) '0' ++ Nat.toDigits 10 n := by
  rw [padded, String.toList_append, String.toList_ofList, Nat.toString_eq_repr, Nat.toList_repr,
    ← String.length_toList, Nat.toList_repr]

theorem isDigit_of_mem_padded {width n : Nat} {c : Char} (h : c ∈ (padded width n).toList) :
    c.isDigit = true := by
  rw [toList_padded] at h
  cases List.mem_append.mp h with
  | inl zero =>
    rw [List.eq_of_mem_replicate zero]
    rfl
  | inr digit => exact Nat.isDigit_of_mem_toDigits (by decide) (by decide) digit

theorem padded_ne_nil (width n : Nat) : (padded width n).toList ≠ [] := by
  simp [toList_padded, Nat.toDigits_ne_nil]

theorem ofDigits_padded (width n : Nat) : ofDigits (padded width n).toList = n := by
  have zeros : ∀ count, ofDigits (List.replicate count '0') = 0 := by
    intro count
    induction count with
    | zero => rfl
    | succ count ih =>
      rw [List.replicate_succ', ofDigits_append, ih]
      rfl
  rw [toList_padded, ofDigits_append, zeros, Nat.zero_mul, Nat.zero_add]
  exact Nat.ofDigitChars_ten_toDigits

theorem length_padded {width n : Nat} (pos : 0 < width) (h : n < tenTo width) :
    (padded width n).toList.length = width := by
  have short : (Nat.toDigits 10 n).length ≤ width :=
    (Nat.length_toDigits_le_iff (by decide) pos).mpr h
  rw [toList_padded, List.length_append, List.length_replicate]
  omega

namespace Scan

variable {α β : Type} {cs ds rest : List Char} {c : Char}

theorem bind_of {p : Scan α} {f : α → Scan β} {a : α} (h : p cs = some (a, rest)) :
    (p >>= f) cs = f a rest := by
  change (p cs).bind _ = _
  rw [h]
  rfl

theorem blanks_of_head (h : ∀ c, cs.head? = some c → isBlank c = false) :
    blanks cs = some ((), cs) := by
  cases cs with
  | nil => rfl
  | cons c cs => simp [blanks, trimLeft, h c rfl]

theorem literal_cons_self (c : Char) (cs : List Char) : literal c (c :: cs) = some ((), cs) := by
  simp [literal]

theorem tryLiteral_cons_self (c : Char) (cs : List Char) :
    tryLiteral c (c :: cs) = some (true, cs) := by
  simp [tryLiteral]

theorem tryLiteral_of_head (h : cs.head? ≠ some c) : tryLiteral c cs = some (false, cs) := by
  cases cs with
  | nil => rfl
  | cons d cs =>
    have other : d ≠ c := fun eq => h (congrArg some eq)
    simp [tryLiteral, other]

theorem one_cons {p : Char → Bool} (h : p c = true) (cs : List Char) :
    one p (c :: cs) = some (c, cs) := by
  simp [one, h]

theorem digits_append (digit : ∀ c ∈ ds, c.isDigit = true) (nonempty : ds ≠ [])
    (stop : ∀ c, rest.head? = some c → c.isDigit = false) :
    digits (ds ++ rest) = some (ds, rest) := by
  have all : run Char.isDigit (ds ++ rest) = some (ds, rest) := by
    rw [run, takeWhile_append_stop digit stop, dropWhile_append_stop digit stop]
  rw [digits, bind_of all, if_neg (by simpa using nonempty)]
  rfl

theorem digitsUpTo_append (digit : ∀ c ∈ ds, c.isDigit = true) (nonempty : ds ≠ [])
    (rest : List Char) : digitsUpTo ds.length (ds ++ rest) = some (ds, rest) := by
  have all : upTo ds.length Char.isDigit (ds ++ rest) = some (ds, rest) := by
    have taken : (ds ++ []).takeWhile Char.isDigit = ds :=
      takeWhile_append_stop digit fun _ head => nomatch head
    rw [List.append_nil] at taken
    rw [upTo, List.take_left, taken, List.drop_left]
  rw [digitsUpTo, bind_of all, if_neg (by simpa using nonempty)]
  rfl

end Scan

end FleetHealth.Text
