import FleetHealth.Proofs.Duration.Language

namespace FleetHealth.Duration

open Text Term

structure Bare (text : String) : Prop where
  trimmed : trim text.toList = text.toList
  unsigned : text.toList.head? ≠ some '+'
  ne_zero : text ≠ "0"

variable {a b text : String} {ts : List Term} {d da db : Duration}

theorem Bare.exists_written (bare : Bare text) (accepted : parse text = .ok d) :
    ∃ ts ≠ [], Written ts text.toList ∧ d.nanos = (ts.map Term.value).sum := by
  obtain ⟨text_ne, -, sum⟩ := parse_eq_ok_iff.mp accepted
  rw [bare.trimmed] at text_ne sum
  have no_sign : dropPlus text.toList = text.toList := by
    cases dropPlus_eq text.toList with
    | inl eq => exact eq.symm
    | inr sign => exact absurd (congrArg List.head? sign) bare.unsigned
  have no_zero : text.toList ≠ ['0'] := by
    intro zero
    exact bare.ne_zero (String.toList_inj.mp zero)
  rw [no_sign, unsignedNanos, if_neg no_zero] at sum
  obtain ⟨ts, written, total, -⟩ := exists_written_of_sumTerms sum (by decide)
  rw [Nat.zero_add] at total
  refine ⟨ts, ?_, written, total⟩
  rintro rfl
  generalize text.toList = cs at written text_ne
  cases written
  exact text_ne rfl

theorem parse_of_limit_le (written : Written ts text.toList) (nonempty : ts ≠ [])
    (trimmed : trim text.toList = text.toList) (long : limit ≤ (ts.map Term.value).sum)
    (fits : (ts.map Term.value).sum < wideLimit) : parse text = .error .outOfRange := by
  obtain ⟨text_ne, positive, unsigned⟩ :=
    dropPlus_of_signed (written.head nonempty) (.inl trimmed)
  have sum : unsignedNanos text.toList = .ok (ts.map Term.value).sum :=
    (unsignedNanos_eq_ok_iff written).mpr ⟨rfl, fits⟩
  have too_long : ofNanos? (ts.map Term.value).sum = none := dif_neg (Nat.not_lt.mpr long)
  rw [parse_eq, if_neg text_ne, if_neg positive, unsigned, sum]
  simp only [bind, Except.bind, too_long]

/-- Two accepted texts make one that stands for their sum, unless that is too long. -/
theorem parse_append (bareA : Bare a) (bareB : Bare b) (ha : parse a = .ok da)
    (hb : parse b = .ok db) :
    (da.nanos + db.nanos < 2 ^ 64 * 10 ^ 9 →
      ∃ d, parse (a ++ b) = .ok d ∧ d.nanos = da.nanos + db.nanos) ∧
    (2 ^ 64 * 10 ^ 9 ≤ da.nanos + db.nanos → parse (a ++ b) = .error .outOfRange) := by
  obtain ⟨ts, nonempty, writtenA, sumA⟩ := bareA.exists_written ha
  obtain ⟨ts', -, writtenB, sumB⟩ := bareB.exists_written hb
  have written := writtenA.append writtenB
  have some_term : ts ++ ts' ≠ [] := List.append_ne_nil_of_left_ne_nil nonempty _
  rw [← String.toList_append] at written
  have sum : ((ts ++ ts').map Term.value).sum = da.nanos + db.nanos := by
    rw [sumA, sumB, List.map_append, List.sum_append]
  have trimmed : trim (a ++ b).toList = (a ++ b).toList := by
    rw [String.toList_append]
    exact trim_append bareA.trimmed bareB.trimmed
  constructor
  · intro short
    refine ⟨⟨da.nanos + db.nanos, short⟩, ?_, rfl⟩
    rw [parse_eq_ok_iff_of_written written some_term (.inl trimmed), sum]
  · intro long
    -- Neither sum reaches half of what can be held on the way.
    have small : limit + limit ≤ wideLimit := by decide
    have shortA := da.nanos_lt
    have shortB := db.nanos_lt
    exact parse_of_limit_le written some_term trimmed (sum ▸ long) (by omega)

/-- The longest span can be put together from its seconds and the rest of them, and when that is
made up to a whole second nothing can hold it. -/
theorem longest_append :
    parse ("18446744073709551615s" ++ ".999999999s") = .ok .max ∧
      parse ("18446744073709551615s" ++ "1000ms") = .error .outOfRange := by
  have written : Written [⟨"18446744073709551615".toList, [], ['s']⟩]
      "18446744073709551615s".toList :=
    .cons (by decide) (.plain rfl) .nil
  have written_rest : Written [⟨[], "999999999".toList, ['s']⟩] ".999999999s".toList :=
    .cons (by decide) .pointed .nil
  have written_second : Written [⟨"1000".toList, [], ['m', 's']⟩] "1000ms".toList :=
    .cons (by decide) (.plain rfl) .nil
  have seconds :
      parse "18446744073709551615s" = .ok ⟨18446744073709551615000000000, by decide⟩ := by
    rw [parse_eq_ok_iff_of_written written (by simp) (.inl (by decide))]
    decide
  have rest : parse ".999999999s" = .ok ⟨999999999, by decide⟩ := by
    rw [parse_eq_ok_iff_of_written written_rest (by simp) (.inl (by decide))]
    decide
  have second : parse "1000ms" = .ok ⟨1000000000, by decide⟩ := by
    rw [parse_eq_ok_iff_of_written written_second (by simp) (.inl (by decide))]
    decide
  have bare : Bare "18446744073709551615s" := ⟨by decide, by decide, by decide⟩
  constructor
  · obtain ⟨d, accepted, sum⟩ :=
      (parse_append bare ⟨by decide, by decide, by decide⟩ seconds rest).1 (by decide)
    rw [accepted, show d = .max from Duration.ext sum]
  · exact (parse_append bare ⟨by decide, by decide, by decide⟩ seconds second).2 (by decide)

end FleetHealth.Duration
