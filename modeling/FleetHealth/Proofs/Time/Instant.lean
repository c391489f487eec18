import FleetHealth.Proofs.Text.Scan
import FleetHealth.Proofs.Time.Calendar
import FleetHealth.Time.Instant.Text

namespace FleetHealth.Instant

open Text

section Scanning

variable {width n : Nat} {rest : List Char}

theorem head_padded {c : Char} (h : ((padded width n).toList ++ rest).head? = some c) :
    c.isDigit = true := by
  cases digits : (padded width n).toList with
  | nil => exact absurd digits (padded_ne_nil width n)
  | cons d ds =>
    rw [digits] at h
    cases h
    have mem : c ∈ (padded width n).toList := digits ▸ List.mem_cons_self
    exact isDigit_of_mem_padded mem

theorem blanks_padded :
    Scan.blanks ((padded width n).toList ++ rest) = some ((), (padded width n).toList ++ rest) :=
  Scan.blanks_of_head fun _ head => isBlank_of_isDigit (head_padded head)

theorem tryLiteral_padded {c : Char} (other : c.isDigit = false) :
    Scan.tryLiteral c ((padded width n).toList ++ rest) =
      some (false, (padded width n).toList ++ rest) := by
  apply Scan.tryLiteral_of_head
  intro head
  rw [head_padded head] at other
  cases other

theorem digitsUpTo_padded (pos : 0 < width) (h : n < tenTo width) :
    Scan.digitsUpTo width ((padded width n).toList ++ rest) =
      some ((padded width n).toList, rest) := by
  have digit : ∀ c ∈ (padded width n).toList, c.isDigit = true :=
    fun _ mem => isDigit_of_mem_padded mem
  have all := Scan.digitsUpTo_append digit (padded_ne_nil width n) rest
  rwa [length_padded pos h] at all

theorem digits_padded (stop : ∀ c, rest.head? = some c → c.isDigit = false) :
    Scan.digits ((padded width n).toList ++ rest) = some ((padded width n).toList, rest) :=
  Scan.digits_append (fun _ mem => isDigit_of_mem_padded mem) (padded_ne_nil width n) stop

theorem scanNumber_padded (h : n < 100) :
    scanNumber ((padded 2 n).toList ++ rest) = some (n, rest) := by
  rw [scanNumber, Scan.bind_of blanks_padded, Scan.bind_of (digitsUpTo_padded (by decide) h),
    ofDigits_padded]
  rfl

theorem blanks_cons {c : Char} (h : isBlank c = false) :
    Scan.blanks (c :: rest) = some ((), c :: rest) := by
  apply Scan.blanks_of_head
  rintro _ ⟨⟩
  exact h

theorem scanMark_cons {c : Char} (h : isBlank c = false) :
    scanMark c (c :: rest) = some ((), rest) := by
  rw [scanMark, Scan.bind_of (blanks_cons h), Scan.literal_cons_self]

theorem toList_mark {mark : String} {c : Char} (h : mark.toList = [c]) (s : String) :
    (mark ++ s).toList = c :: s.toList := by
  rw [String.toList_append, h, List.singleton_append]

theorem scanYear_text (y : Int) :
    scanYear ((yearText y).toList ++ '-' :: rest) = some (y, '-' :: rest) := by
  have stop : ∀ c, ('-' :: rest).head? = some c → c.isDigit = false := by
    rintro _ ⟨⟩
    rfl
  rw [yearText, scanYear]
  split
  · rename_i short
    have four : y.toNat < tenTo 4 := by
      change _ < 10000
      omega
    rw [Scan.bind_of blanks_padded, Scan.bind_of (tryLiteral_padded rfl), if_neg Bool.false_ne_true,
      Scan.bind_of (tryLiteral_padded rfl), if_neg Bool.false_ne_true,
      Scan.bind_of (digitsUpTo_padded (by decide) four), ofDigits_padded]
    rw [Int.toNat_of_nonneg short.1]
    rfl
  · rename_i long
    by_cases negative : y < 0
    · have minus : "-".toList = ['-'] := rfl
      rw [if_pos negative, toList_mark minus, List.cons_append, Scan.bind_of (blanks_cons rfl),
        Scan.bind_of (Scan.tryLiteral_cons_self ..), if_pos rfl,
        Scan.bind_of (digits_padded stop), ofDigits_padded, Int.ofNat_natAbs_of_nonpos negative.le,
        Int.neg_neg]
      rfl
    · have plus : "+".toList = ['+'] := rfl
      rw [if_neg negative, toList_mark plus, List.cons_append, Scan.bind_of (blanks_cons rfl),
        Scan.bind_of (Scan.tryLiteral_of_head (by simp)), if_neg Bool.false_ne_true,
        Scan.bind_of (Scan.tryLiteral_cons_self ..), if_pos rfl,
        Scan.bind_of (digits_padded stop), ofDigits_padded,
        Int.natAbs_of_nonneg (Int.not_lt.mp negative)]
      rfl

theorem scanFraction_pointed (pos : 0 < width) (le : width ≤ 9) (h : n < tenTo width) :
    scanFraction (("." ++ padded width n).toList ++ 'Z' :: rest) =
      some (n * tenTo (9 - width), 'Z' :: rest) := by
  have stop : ∀ c, ('Z' :: rest).head? = some c → c.isDigit = false := by
    rintro _ ⟨⟩
    rfl
  have point : ".".toList = ['.'] := rfl
  have all : (padded width n).toList.take 9 = (padded width n).toList := by
    rw [List.take_of_length_le]
    rwa [length_padded pos h]
  rw [scanFraction, toList_mark point, List.cons_append,
    Scan.bind_of (Scan.tryLiteral_cons_self ..), if_pos rfl, Scan.bind_of (digits_padded stop), all,
    ofDigits_padded, length_padded pos h]
  rfl

theorem scanFraction_text {nanos : Nat} (h : nanos < nanosPerSecond) :
    scanFraction ((fractionText nanos).toList ++ 'Z' :: rest) = some (nanos, 'Z' :: rest) := by
  have milli : tenTo (9 - 3) = 1000000 := rfl
  have micro : tenTo (9 - 6) = 1000 := rfl
  have nano : tenTo (9 - 9) = 1 := rfl
  rw [fractionText]
  simp only [nanosPerSecond] at h
  split
  · rename_i zero
    rw [scanFraction, String.toList_empty, List.nil_append,
      Scan.bind_of (Scan.tryLiteral_of_head (by simp)), if_neg Bool.false_ne_true, zero]
    rfl
  · split
    · rename_i whole
      rw [scanFraction_pointed (by decide) (by decide) (by change _ < 1000; omega), milli,
        Nat.div_mul_cancel (Nat.dvd_of_mod_eq_zero whole)]
    · split
      · rename_i whole
        rw [scanFraction_pointed (by decide) (by decide) (by change _ < 1000000; omega), micro,
          Nat.div_mul_cancel (Nat.dvd_of_mod_eq_zero whole)]
      · rw [scanFraction_pointed (by decide) (by decide) h, nano, Nat.mul_one]

theorem scanOffset_zulu : scanOffset ('Z' :: rest) = some (0, rest) := by
  have other : tryUTC ('Z' :: rest) = some (false, 'Z' :: rest) := by
    rw [tryUTC, if_neg]
    intro eq
    rw [List.take_succ_cons, List.map_cons] at eq
    exact absurd (List.cons.inj eq).1 (by decide)
  rw [scanOffset, Scan.bind_of other, if_neg Bool.false_ne_true,
    Scan.bind_of (Scan.tryLiteral_cons_self ..), if_pos rfl]
  rfl

end Scanning

def written (t : Instant) (nanos : Nat) : Written where
  date := Date.ofDays (t.seconds / secondsPerDay)
  hour := t.secondOfDay.toNat / 3600
  minute := t.secondOfDay.toNat / 60 % 60
  second := t.secondOfDay.toNat % 60 + if t.isLeap then 1 else 0
  nanos := nanos
  offset := 0

theorem secondOfDay_lt (t : Instant) : t.secondOfDay.toNat < secondsPerDay := by
  simp only [secondOfDay, secondsPerDay]
  omega

theorem scanWritten_text (t : Instant) {nanos : Nat} (h : nanos < nanosPerSecond) :
    scanWritten (t.secondsText ++ fractionText nanos ++ "Z").toList =
      some (t.written nanos, []) := by
  obtain ⟨-, december, -, lastDay⟩ := Date.isValid_ofDays (t.seconds / secondsPerDay)
  have month : (Date.ofDays (t.seconds / secondsPerDay)).month < 100 := by omega
  have day : (Date.ofDays (t.seconds / secondsPerDay)).day < 100 :=
    Nat.lt_of_le_of_lt (lastDay.trans (Date.daysInMonth_le _ _)) (by decide)
  have inDay : t.secondOfDay.toNat < 86400 := t.secondOfDay_lt
  have second : t.secondOfDay.toNat % 60 + (if t.isLeap then 1 else 0) < 100 := by
    split <;> omega
  have marks : "-".toList = ['-'] ∧ "T".toList = ['T'] ∧ ":".toList = [':'] ∧ "Z".toList = ['Z'] :=
    ⟨rfl, rfl, rfl, rfl⟩
  simp only [secondsText, dateText, clockText, String.toList_append, marks, List.append_assoc,
    List.cons_append, List.nil_append]
  rw [scanWritten, Scan.bind_of (scanYear_text _), Scan.bind_of (scanMark_cons rfl),
    Scan.bind_of (scanNumber_padded month), Scan.bind_of (scanMark_cons rfl),
    Scan.bind_of (scanNumber_padded day), Scan.bind_of (Scan.one_cons rfl _),
    Scan.bind_of (scanNumber_padded (by omega)), Scan.bind_of (scanMark_cons rfl),
    Scan.bind_of (scanNumber_padded (by omega)), Scan.bind_of (scanMark_cons rfl),
    Scan.bind_of (scanNumber_padded second), Scan.bind_of (scanFraction_text h),
    Scan.bind_of (blanks_cons rfl), Scan.bind_of scanOffset_zulu, Scan.bind_of rfl]
  rfl

theorem isYear_ofDays (t : Instant) :
    Written.isYear (Date.ofDays (t.seconds / secondsPerDay)).year = true := by
  obtain ⟨least, greatest, -⟩ := t.inRange
  simp only [minSeconds, maxSeconds] at least greatest
  have first : Date.newYear (-262143) = -96465292 := by decide
  have last : Date.newYear (262142 + 1) = 95026237 := by decide
  have begun : Date.newYear (-262143) ≤ t.seconds / secondsPerDay := by
    simp only [secondsPerDay]
    omega
  have unfinished : t.seconds / secondsPerDay < Date.newYear (262142 + 1) := by
    simp only [secondsPerDay]
    omega
  simpa [Written.isYear] using Date.year_ofDays_bounds begun unfinished

/-- The second that is written is the last one of its minute, made longer, for leap seconds only. -/
theorem second_written (t : Instant) (nanos : Nat) :
    (t.written nanos).second = 60 ∧ t.isLeap = true ∧ t.secondOfDay.toNat % 60 = 59 ∨
      (t.written nanos).second = t.secondOfDay.toNat % 60 ∧ t.isLeap = false := by
  cases leap : t.isLeap with
  | false => simp [written, leap]
  | true =>
    have last : t.seconds % 60 = 59 := t.inRange.2.2.2 (by simpa [isLeap] using leap)
    have last : t.secondOfDay.toNat % 60 = 59 := by
      simp only [secondOfDay, secondsPerDay]
      omega
    simp [written, leap, last]

theorem localSeconds_written (t : Instant) (nanos : Nat) :
    (t.written nanos).localSeconds = t.seconds := by
  have second := t.second_written nanos
  rw [Written.localSeconds, written, Date.toDays_ofDays]
  simp only [written, secondOfDay, secondsPerDay] at second ⊢
  omega

theorem parse?_text (t : Instant) {nanos : Nat} (h : nanos < nanosPerSecond) :
    parse? (t.secondsText ++ fractionText nanos ++ "Z") =
      ofParts? t.seconds (nanos + if t.isLeap then nanosPerSecond else 0) := by
  have scanned : scanWritten.whole? (t.secondsText ++ fractionText nanos ++ "Z").toList =
      some (t.written nanos) := by
    rw [Scan.whole?, scanWritten_text t h]
  have inDay : t.secondOfDay.toNat < 86400 := t.secondOfDay_lt
  have leap : (t.written nanos).second = 60 ↔ t.isLeap = true := by
    rcases t.second_written nanos with ⟨sixty, leap, -⟩ | ⟨second, leap⟩
    · simp [sixty, leap]
    · simp only [leap, Bool.false_eq_true, iff_false]
      omega
  rw [parse?, scanned, Option.bind_eq_bind, Option.bind_some, Written.instant?, if_pos,
    localSeconds_written]
  · simp only [leap]
    simp [written]
  · refine ⟨Date.isValid_ofDays _, isYear_ofDays t, ?_, ?_, ?_, ?_⟩
    · simp only [written]
      omega
    · simp only [written]
      omega
    · rcases t.second_written nanos with ⟨sixty, -⟩ | ⟨second, -⟩ <;> omega
    · simp [written, secondsPerDay]

theorem parse?_render (t : Instant) : parse? (t.render "Z") = some t := by
  have whole : t.nanos % nanosPerSecond + (if t.isLeap then nanosPerSecond else 0) = t.nanos := by
    have bound := t.inRange.2.2.1
    by_cases leap : nanosPerSecond ≤ t.nanos
    · rw [if_pos (by simpa [isLeap] using leap), Nat.mod_eq_sub_mod leap,
        Nat.mod_eq_of_lt (by omega)]
      omega
    · rw [if_neg (by simpa [isLeap] using leap), Nat.mod_eq_of_lt (by omega)]
      omega
  rw [render, parse?_text t (Nat.mod_lt _ (by decide)), whole, ofParts?, dif_pos t.inRange]

/-- The instant without its fraction of a second; a leap second stays one. -/
def wholeSeconds (t : Instant) : Instant where
  seconds := t.seconds
  nanos := if t.isLeap then nanosPerSecond else 0
  inRange := by
    obtain ⟨least, greatest, -, last⟩ := t.inRange
    cases leap : t.isLeap with
    | false => exact ⟨least, greatest, by decide, by simp [nanosPerSecond]⟩
    | true =>
      exact ⟨least, greatest, by decide, fun _ => last (by simpa [isLeap] using leap)⟩

theorem isLeap_wholeSeconds (t : Instant) : t.wholeSeconds.isLeap = t.isLeap := by
  change decide (nanosPerSecond ≤ if t.isLeap then nanosPerSecond else 0) = _
  cases t.isLeap <;> rfl

@[simp] theorem renderSeconds_wholeSeconds (t : Instant) :
    t.wholeSeconds.renderSeconds = t.renderSeconds := by
  simp only [renderSeconds, secondsText, isLeap_wholeSeconds]
  rfl

theorem parse?_renderSeconds (t : Instant) : parse? t.renderSeconds = some t.wholeSeconds := by
  have text : t.renderSeconds = t.secondsText ++ fractionText 0 ++ "Z" := by
    simp [renderSeconds, fractionText]
  rw [text, parse?_text t (by decide), Nat.zero_add]
  exact dif_pos t.wholeSeconds.inRange

end FleetHealth.Instant
