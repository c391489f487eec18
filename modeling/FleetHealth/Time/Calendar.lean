/-!
The proleptic Gregorian calendar: days since 1970-01-01 and the date they fall on.

Years are counted from March, so that the leap day is the last day of its year. Four centuries
always have the same number of days.
-/

namespace FleetHealth

structure Date where
  year : Int
  month : Nat
  day : Nat
  deriving DecidableEq, Repr

namespace Date

def isLeapYear (y : Int) : Bool := y % 4 == 0 && (y % 100 != 0 || y % 400 == 0)

def daysInMonth (y : Int) (m : Nat) : Nat :=
  match m with
  | 4 | 6 | 9 | 11 => 30
  | 2 => if isLeapYear y then 29 else 28
  | _ => 31

def IsValid (d : Date) : Prop :=
  1 ≤ d.month ∧ d.month ≤ 12 ∧ 1 ≤ d.day ∧ d.day ≤ daysInMonth d.year d.month

instance (d : Date) : Decidable d.IsValid := by unfold IsValid; infer_instance

def epochOffset : Int := 719468

def marchFirst (year : Int) : Int := year * 365 + year / 4 - year / 100 + year / 400 - epochOffset

/-- Days before the first of a month in a year that starts in March, which has number 0. -/
def daysBeforeMonth (month : Int) : Int := (153 * month + 2) / 5

def toDays (d : Date) : Int :=
  if d.month ≤ 2 then marchFirst (d.year - 1) + daysBeforeMonth (d.month + 9) + d.day - 1
  else marchFirst d.year + daysBeforeMonth (d.month - 3) + d.day - 1

def ofMarch (year dayOfYear : Int) : Date :=
  let month := (5 * dayOfYear + 2) / 153
  let day := (dayOfYear - daysBeforeMonth month + 1).toNat
  if month < 10 then { year, month := (month + 3).toNat, day }
  else { year := year + 1, month := (month - 9).toNat, day }

/-- The year that starts in March and the day in it, counted from zero. Four centuries have 146097
days, each of them but the last 36524, four years 1461, and each of them but the last 365. -/
def marchYear (days : Int) : Int × Int :=
  let era := (days + epochOffset) / 146097
  let dayOfEra := (days + epochOffset) % 146097
  let century := min (dayOfEra / 36524) 3
  let dayOfCentury := dayOfEra - century * 36524
  let fourYears := dayOfCentury / 1461
  let year := min (dayOfCentury % 1461 / 365) 3
  (era * 400 + century * 100 + fourYears * 4 + year, dayOfCentury % 1461 - year * 365)

def ofDays (days : Int) : Date := ofMarch (marchYear days).1 (marchYear days).2

theorem toDays_ofMarch {year dayOfYear : Int} (h₀ : 0 ≤ dayOfYear) (h₁ : dayOfYear ≤ 365) :
    (ofMarch year dayOfYear).toDays = marchFirst year + dayOfYear := by
  simp only [ofMarch, toDays, daysBeforeMonth]
  split
  · rw [if_neg (by simp only; omega)]
    simp only
    omega
  · rw [if_pos (by simp only; omega)]
    simp only [Int.add_sub_cancel]
    omega

theorem marchYear_snd (days : Int) : 0 ≤ (marchYear days).2 ∧ (marchYear days).2 ≤ 365 := by
  simp only [marchYear, epochOffset]
  omega

/-- Counting years by eras, centuries and spans of four years counts each leap day once. -/
theorem marchFirst_eq {era century fourYears year : Int} (h₀ : 0 ≤ century ∧ century ≤ 3)
    (h₁ : 0 ≤ fourYears ∧ fourYears ≤ 24) (h₂ : 0 ≤ year ∧ year ≤ 3) :
    marchFirst (era * 400 + century * 100 + fourYears * 4 + year)
      = era * 146097 + century * 36524 + fourYears * 1461 + year * 365 - epochOffset := by
  simp only [marchFirst, epochOffset]
  omega

theorem marchFirst_marchYear (days : Int) :
    marchFirst (marchYear days).1 + (marchYear days).2 = days := by
  simp only [marchYear]
  rw [marchFirst_eq (by omega) (by omega) (by omega)]
  omega

theorem toDays_ofDays (days : Int) : (ofDays days).toDays = days := by
  rw [ofDays, toDays_ofMarch (marchYear_snd days).1 (marchYear_snd days).2, marchFirst_marchYear]

end Date

end FleetHealth
