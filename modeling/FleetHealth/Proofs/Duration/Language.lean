import FleetHealth.Proofs.Duration.Terms
import Mathlib.Data.Nat.Cast.Order.Field
import Mathlib.Tactic.NormNum

namespace FleetHealth.Duration

open Text Term

def Term.exact (t : Term) : ℚ :=
  (ofDigits t.whole + ofDigits t.fraction / 10 ^ t.fraction.length) * t.scale

/-- Durations without a sign as they are documented, with their nanoseconds. -/
inductive Unsigned : List Char → ℚ → Prop
  | zero : Unsigned ['0'] 0
  | terms {t ts cs} (written : Written (t :: ts) cs) : Unsigned cs ((t :: ts).map Term.exact).sum

def Documented (text : List Char) (total : ℚ) : Prop :=
  ∃ body, (text = body ∨ text = '+' :: body) ∧ Unsigned body total

variable {t : Term} {cs text body : List Char} {total : ℚ} {n : Nat} {d : Duration}

theorem fractionNanos_le (fraction : List Char) (scale : Nat) :
    fractionNanos fraction scale ≤ ofDigits fraction * scale / tenTo fraction.length := by
  have digits := ofDigits_append (fraction.take fractionDigits) (fraction.drop fractionDigits)
  have length := congrArg List.length (List.take_append_drop fractionDigits fraction)
  rw [List.take_append_drop] at digits
  rw [List.length_append] at length
  rw [Nat.le_div_iff_mul_le (tenTo_pos _), ← length, tenTo_add, ← Nat.mul_assoc, digits]
  calc fractionNanos fraction scale * tenTo (fraction.take fractionDigits).length *
        tenTo (fraction.drop fractionDigits).length
      ≤ ofDigits (fraction.take fractionDigits) * scale *
          tenTo (fraction.drop fractionDigits).length :=
        Nat.mul_le_mul_right _ (Nat.div_mul_le_self _ _)
    _ = ofDigits (fraction.take fractionDigits) * tenTo (fraction.drop fractionDigits).length *
          scale := Nat.mul_right_comm ..
    _ ≤ _ := Nat.mul_le_mul_right _ (Nat.le_add_right _ _)

theorem cast_tenTo (n : Nat) : ((tenTo n : Nat) : ℚ) = 10 ^ n := by
  rw [tenTo, Nat.pow_eq]
  push_cast
  rfl

theorem Term.value_le_exact (t : Term) : (t.value : ℚ) ≤ t.exact := by
  have fraction : (fractionNanos t.fraction t.scale : ℚ) ≤
      ofDigits t.fraction * t.scale / 10 ^ t.fraction.length := by
    have bound := fractionNanos_le t.fraction t.scale
    calc (fractionNanos t.fraction t.scale : ℚ)
        ≤ (ofDigits t.fraction * t.scale / tenTo t.fraction.length : Nat) := by exact_mod_cast bound
      _ ≤ ((ofDigits t.fraction * t.scale : Nat) : ℚ) / (tenTo t.fraction.length : Nat) :=
        Nat.cast_div_le
      _ = _ := by
        rw [cast_tenTo]
        push_cast
        rfl
  rw [Term.value, Term.exact]
  push_cast
  rw [add_mul, div_mul_eq_mul_div]
  exact add_le_add_right fraction _

theorem sum_value_le (ts : List Term) :
    ((ts.map Term.value).sum : ℚ) ≤ (ts.map Term.exact).sum := by
  induction ts with
  | nil => simp
  | cons t ts ih =>
    simp only [List.map_cons, List.sum_cons, Nat.cast_add]
    exact add_le_add t.value_le_exact ih

theorem parse_eq (input : String) : parse input =
    if trim input.toList = [] then .error .empty
    else if (trim input.toList).head? = some '-' then .error .negative
    else unsignedNanos (dropPlus (trim input.toList)) >>= fun nanos =>
      match ofNanos? nanos with
      | some d => .ok d
      | none => .error .outOfRange := by
  rw [parse, parseChars]
  split
  · rfl
  · split
    · rfl
    · rfl

theorem parse_eq_ok_iff {input : String} : parse input = .ok d ↔
    trim input.toList ≠ [] ∧ (trim input.toList).head? ≠ some '-' ∧
      unsignedNanos (dropPlus (trim input.toList)) = .ok d.nanos := by
  rw [parse_eq]
  by_cases empty : trim input.toList = []
  · simp [empty]
  by_cases negative : (trim input.toList).head? = some '-'
  · simp [empty, negative]
  rw [if_neg empty, if_neg negative]
  constructor
  · intro h
    obtain ⟨nanos, sum, h⟩ := bind_eq_ok h
    cases found : ofNanos? nanos with
    | none =>
      rw [found] at h
      cases h
    | some d' =>
      rw [found] at h
      cases h
      exact ⟨empty, negative, ofNanos?_eq_some_iff.mp found ▸ sum⟩
  · rintro ⟨-, -, sum⟩
    have found : ofNanos? d.nanos = some d := ofNanos?_eq_some_iff.mpr rfl
    simp only [sum, bind, Except.bind, found]

theorem unsignedNanos_eq_ok (h : unsignedNanos body = .ok n) :
    body = [] ∨ ∃ total, Unsigned body total := by
  rw [unsignedNanos] at h
  split at h
  · rename_i zero
    exact .inr ⟨0, zero ▸ .zero⟩
  · obtain ⟨ts, written, -⟩ := exists_written_of_sumTerms h (by decide)
    cases written with
    | nil => exact .inl rfl
    | cons formed spelled rest => exact .inr ⟨_, .terms (.cons formed spelled rest)⟩

theorem Unsigned.head (h : Unsigned body total) :
    ∃ c, body.head? = some c ∧ isUnitEnd c = true := by
  cases h with
  | zero => exact ⟨'0', rfl, rfl⟩
  | terms written =>
    cases written with
    | cons formed spelled rest => exact exists_head_spelling formed spelled _

theorem Unsigned.exists_nanos (h : Unsigned body total) (short : total < 2 ^ 64 * 10 ^ 9) :
    ∃ d : Duration, unsignedNanos body = .ok d.nanos := by
  cases h with
  | zero => exact ⟨.zero, by simp [unsignedNanos]⟩
  | @terms t ts body written =>
    rw [unsignedNanos]
    split
    · exact ⟨.zero, rfl⟩
    · have sum_lt : ((t :: ts).map Term.value).sum < limit := by
        have le := (sum_value_le (t :: ts)).trans_lt short
        rw [limit, nanosPerSecond]
        exact_mod_cast le
      have limit_le : limit ≤ wideLimit := by decide
      have sum := sumTerms_written written (by omega : 0 + ((t :: ts).map Term.value).sum < wideLimit)
      rw [Nat.zero_add] at sum
      exact ⟨⟨_, sum_lt⟩, sum⟩

theorem dropPlus_eq (text : List Char) : text = dropPlus text ∨ text = '+' :: dropPlus text := by
  unfold dropPlus
  split
  · exact .inr rfl
  · exact .inl rfl

theorem dropPlus_of_head (h : ∃ c, body.head? = some c ∧ isUnitEnd c = true) :
    dropPlus body = body := by
  obtain ⟨c, head, stop⟩ := h
  unfold dropPlus
  split
  · cases head
    cases stop
  · rfl

theorem head_ne_minus (h : ∃ c, body.head? = some c ∧ isUnitEnd c = true) :
    body.head? ≠ some '-' := by
  obtain ⟨c, head, stop⟩ := h
  rintro minus
  cases minus.symm.trans head
  cases stop

theorem Written.head {ts : List Term} (written : Written ts body) (nonempty : ts ≠ []) :
    ∃ c, body.head? = some c ∧ isUnitEnd c = true := by
  cases written with
  | nil => exact absurd rfl nonempty
  | cons formed spelled rest => exact exists_head_spelling formed spelled _

theorem dropPlus_of_signed (h : ∃ c, body.head? = some c ∧ isUnitEnd c = true)
    (sign : text = body ∨ text = '+' :: body) :
    text ≠ [] ∧ text.head? ≠ some '-' ∧ dropPlus text = body := by
  cases sign with
  | inl eq =>
    obtain ⟨c, head, stop⟩ := h
    subst eq
    refine ⟨?_, head_ne_minus ⟨c, head, stop⟩, dropPlus_of_head ⟨c, head, stop⟩⟩
    rintro rfl
    cases head
  | inr eq =>
    subst eq
    exact ⟨by simp, by simp, rfl⟩

theorem unsignedNanos_eq_ok_iff {ts : List Term} (written : Written ts body) :
    unsignedNanos body = .ok n ↔ n = (ts.map Term.value).sum ∧ n < wideLimit := by
  rw [unsignedNanos, if_neg written.ne_zero]
  exact sumTerms_eq_ok_iff written

theorem parse_eq_ok_iff_of_written {ts : List Term} {input : String} (written : Written ts body)
    (nonempty : ts ≠ []) (sign : trim input.toList = body ∨ trim input.toList = '+' :: body) :
    parse input = .ok d ↔ d.nanos = (ts.map Term.value).sum := by
  obtain ⟨text_ne, positive, unsigned⟩ := dropPlus_of_signed (written.head nonempty) sign
  have limit_le : limit ≤ wideLimit := by decide
  have short := d.nanos_lt
  rw [parse_eq_ok_iff, unsigned, unsignedNanos_eq_ok_iff written]
  constructor
  · rintro ⟨-, -, sum, -⟩
    exact sum
  · intro sum
    exact ⟨text_ne, positive, sum, by omega⟩

/-- Everything in the documented form is accepted unless it is too long, and nothing else except a
lone plus sign, which counts as zero. -/
theorem parse_accepts (input : String) :
    ((∃ d, parse input = .ok d) →
      trim input.toList = ['+'] ∨ ∃ total, Documented (trim input.toList) total) ∧
    (∀ total, Documented (trim input.toList) total → total < 2 ^ 64 * 10 ^ 9 →
      ∃ d, parse input = .ok d) ∧
    (trim input.toList = ['+'] → parse input = .ok .zero) := by
  simp only [parse_eq_ok_iff]
  refine ⟨?_, ?_, ?_⟩
  · rintro ⟨d, nonempty, -, sum⟩
    have sign := dropPlus_eq (trim input.toList)
    cases unsignedNanos_eq_ok sum with
    | inl empty =>
      rw [empty] at sign
      exact .inl (sign.resolve_left nonempty)
    | inr unsigned =>
      obtain ⟨total, unsigned⟩ := unsigned
      exact .inr ⟨total, _, sign, unsigned⟩
  · rintro total ⟨body, sign, unsigned⟩ short
    obtain ⟨d, sum⟩ := unsigned.exists_nanos short
    refine ⟨d, ?_⟩
    cases sign with
    | inl eq =>
      obtain ⟨c, head, stop⟩ := unsigned.head
      rw [eq, dropPlus_of_head unsigned.head]
      refine ⟨?_, head_ne_minus unsigned.head, sum⟩
      rintro rfl
      cases head
    | inr eq =>
      rw [eq]
      exact ⟨by simp, by simp, sum⟩
  · intro plus
    rw [plus]
    refine ⟨by simp, by simp, ?_⟩
    rw [dropPlus, unsignedNanos, if_neg (by decide)]
    exact sumTerms_written .nil (by decide)

theorem compound_accepted :
    Documented (trim " +1h.5m".toList) 3630000000000 ∧ ∃ d, parse " +1h.5m" = .ok d := by
  have written : Written [⟨['1'], [], ['h']⟩, ⟨[], ['5'], ['m']⟩] "1h.5m".toList :=
    .cons ⟨by simp, by simp, by simp, by simp [units, unitScales]⟩ (.plain rfl)
      (.cons ⟨by simp, by simp, by simp, by simp [units, unitScales]⟩ .pointed .nil)
  have hour : Term.exact ⟨['1'], [], ['h']⟩ = 3600000000000 := by
    have digits : ofDigits ['1'] = 1 := rfl
    have scale : Term.scale ⟨['1'], [], ['h']⟩ = 3600000000000 := rfl
    norm_num [Term.exact, digits, scale]
  have half : Term.exact ⟨[], ['5'], ['m']⟩ = 30000000000 := by
    have digits : ofDigits ['5'] = 5 := rfl
    have scale : Term.scale ⟨[], ['5'], ['m']⟩ = 60000000000 := rfl
    norm_num [Term.exact, digits, scale]
  have total : Unsigned "1h.5m".toList 3630000000000 := by
    have terms := Unsigned.terms written
    norm_num [hour, half] at terms
    exact terms
  have documented : Documented (trim " +1h.5m".toList) 3630000000000 :=
    ⟨_, .inr (by decide), total⟩
  exact ⟨documented, (parse_accepts _).2.1 _ documented (by norm_num)⟩

/-- A plus sign by itself is accepted, though it has none of the documented terms. -/
theorem lone_plus_accepted :
    parse "+" = .ok .zero ∧ ∀ total, ¬Documented (trim "+".toList) total := by
  have text : trim "+".toList = ['+'] := by decide
  refine ⟨by decide +kernel, ?_⟩
  rw [text]
  rintro total ⟨body, eq | eq, unsigned⟩
  · cases eq
    obtain ⟨c, head, stop⟩ := unsigned.head
    cases head
    cases stop
  · cases eq
    obtain ⟨c, head, -⟩ := unsigned.head
    cases head

end FleetHealth.Duration
