import FleetHealth.Time.Calendar
import Mathlib.Tactic.IntervalCases

namespace FleetHealth.Date

theorem isLeapYear_of_fourth {era century fourYears : Int} (h₀ : 0 ≤ fourYears ∧ fourYears ≤ 24)
    (h₁ : fourYears = 24 → century = 3) :
    isLeapYear (era * 400 + century * 100 + fourYears * 4 + 3 + 1) = true := by
  simp only [isLeapYear, Bool.and_eq_true, Bool.or_eq_true, beq_iff_eq, bne_iff_ne]
  omega

theorem isLeapYear_of_marchYear {days : Int} (h : (marchYear days).2 = 365) :
    isLeapYear ((marchYear days).1 + 1) = true := by
  simp only [marchYear] at h ⊢
  generalize (days + epochOffset) / 146097 = era
  obtain ⟨day, number⟩ : ∃ day, day = (days + epochOffset) % 146097 := ⟨_, rfl⟩
  have range : 0 ≤ day ∧ day < 146097 := by omega
  rw [← number] at h ⊢
  obtain ⟨century, centuries⟩ : ∃ century, century = min (day / 36524) 3 := ⟨_, rfl⟩
  rw [← centuries] at h ⊢
  have third : min ((day - century * 36524) % 1461 / 365) 3 = 3 := by omega
  rw [third] at h ⊢
  exact isLeapYear_of_fourth (by omega) (by omega)

theorem daysInMonth_le (year : Int) (month : Nat) : daysInMonth year month ≤ 31 := by
  have february : (if isLeapYear year then 29 else 28) ≤ 31 := by split <;> decide
  unfold daysInMonth
  split <;> omega

theorem isValid_ofMarch {year dayOfYear : Int} (h₀ : 0 ≤ dayOfYear) (h₁ : dayOfYear ≤ 365)
    (leap : dayOfYear = 365 → isLeapYear (year + 1) = true) : (ofMarch year dayOfYear).IsValid := by
  obtain ⟨month, number⟩ : ∃ month : Int, month = (5 * dayOfYear + 2) / 153 := ⟨_, rfl⟩
  have first : 0 ≤ month := by omega
  have last : month ≤ 11 := by omega
  rw [ofMarch, ← number]
  simp only [daysBeforeMonth]
  by_cases february : month = 11
  · subst february
    cases leapYear : isLeapYear (year + 1) with
    | true =>
      simp [IsValid, daysInMonth, leapYear]
      omega
    | false =>
      have short : dayOfYear ≠ 365 := by
        intro long
        rw [leap long] at leapYear
        cases leapYear
      simp [IsValid, daysInMonth, leapYear]
      omega
  · have other : month ≤ 10 := by omega
    interval_cases month <;> (simp [IsValid, daysInMonth]; omega)

theorem isValid_ofDays (days : Int) : (ofDays days).IsValid :=
  isValid_ofMarch (marchYear_snd days).1 (marchYear_snd days).2 isLeapYear_of_marchYear

theorem year_ofMarch (year dayOfYear : Int) :
    (ofMarch year dayOfYear).year = if dayOfYear < 306 then year else year + 1 := by
  rw [ofMarch]
  split
  · rw [if_pos (by omega)]
  · rw [if_neg (by omega)]

theorem marchFirst_le {year year' : Int} (h : year ≤ year') :
    marchFirst year ≤ marchFirst year' := by
  simp only [marchFirst]
  rcases Int.le_iff_eq_or_lt.mp h with rfl | lt <;> omega

def newYear (year : Int) : Int := marchFirst (year - 1) + 306

theorem newYear_ofDays (days : Int) :
    newYear (ofDays days).year ≤ days ∧ days < newYear ((ofDays days).year + 1) := by
  obtain ⟨nonneg, short⟩ := marchYear_snd days
  have reached := marchFirst_marchYear days
  rw [ofDays, year_ofMarch]
  simp only [newYear, marchFirst] at reached ⊢
  split <;> omega

theorem year_ofDays_bounds {first last days : Int} (h₀ : newYear first ≤ days)
    (h₁ : days < newYear (last + 1)) :
    first ≤ (ofDays days).year ∧ (ofDays days).year ≤ last := by
  obtain ⟨begun, unfinished⟩ := newYear_ofDays days
  constructor
  · by_contra before
    have le : newYear ((ofDays days).year + 1) ≤ newYear first :=
      Int.add_le_add_right (marchFirst_le (by omega)) 306
    omega
  · by_contra after
    have le : newYear (last + 1) ≤ newYear (ofDays days).year :=
      Int.add_le_add_right (marchFirst_le (by omega)) 306
    omega

end FleetHealth.Date
