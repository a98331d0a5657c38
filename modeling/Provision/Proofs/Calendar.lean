import Mathlib.Tactic.IntervalCases
import Provision.Instant

/-!
The dates of the days. The number of a day is taken apart into an era, a year of the era and a day
of the year, which begins in March. Every day gets a date that the calendar has, and the count up to
that date is the number of the day.
-/

namespace Provision.Date

def yearOfEra (dayOfEra : Int) : Int :=
  (dayOfEra - dayOfEra / 1460 + dayOfEra / 36524 - dayOfEra / 146096) / 365

def dayOfYear (dayOfEra : Int) : Int := dayOfEra - daysBeforeYear (yearOfEra dayOfEra)

def monthOfYear (dayOfYear : Int) : Int := (5 * dayOfYear + 2) / 153

/-- The date of a day of a month, where days and months are counted from the first of March. -/
def ofMarch (year month day : Int) : Date where
  year := if month < 10 then year else year + 1
  month := (if month < 10 then month + 3 else month - 9).toNat
  day := (day + 1).toNat

theorem ofDays_eq (days : Int) :
    let dayOfEra := (days + daysToEpoch) % daysInEra
    let month := monthOfYear (dayOfYear dayOfEra)
    ofDays days =
      ofMarch (yearOfEra dayOfEra + (days + daysToEpoch) / daysInEra * 400) month
        (dayOfYear dayOfEra - daysBeforeMonth month) :=
  rfl

section Era

variable {dayOfEra : Int} (natural : 0 ≤ dayOfEra) (within : dayOfEra < daysInEra)
include natural within

theorem yearOfEra_bounds : 0 ≤ yearOfEra dayOfEra ∧ yearOfEra dayOfEra < 400 := by
  simp only [daysInEra] at within
  simp only [yearOfEra]
  omega

theorem yearOfEra_div_hundred :
    yearOfEra dayOfEra / 100 = dayOfEra / 36524 - dayOfEra / 146096 := by
  simp only [daysInEra] at within
  have centuries : dayOfEra / 36524 = 0 ∨ dayOfEra / 36524 = 1 ∨ dayOfEra / 36524 = 2 ∨
      dayOfEra / 36524 = 3 ∨ dayOfEra / 36524 = 4 := by omega
  simp only [yearOfEra]
  rcases centuries with century | century | century | century | century <;> omega

/-- A leap day may be counted before it has come. -/
theorem yearOfEra_div_four :
    yearOfEra dayOfEra / 4 ≤ dayOfEra / 1460 ∧ dayOfEra / 1460 ≤ yearOfEra dayOfEra / 4 + 1 := by
  simp only [daysInEra] at within
  simp only [yearOfEra]
  omega

theorem dayOfYear_bounds : 0 ≤ dayOfYear dayOfEra ∧ dayOfYear dayOfEra ≤ 365 := by
  have hundreds := yearOfEra_div_hundred natural within
  have fours := yearOfEra_div_four natural within
  simp only [daysInEra] at within
  simp only [yearOfEra, dayOfYear, daysBeforeYear] at *
  omega

/-- The year that begins in March ends in February of the next one. -/
theorem isLeap_of_dayOfYear (last : dayOfYear dayOfEra = 365) (era : Int) :
    isLeap (yearOfEra dayOfEra + era * 400 + 1) := by
  have hundreds := yearOfEra_div_hundred natural within
  have fours := yearOfEra_div_four natural within
  have leap : yearOfEra dayOfEra % 4 = 3 ∧
      (yearOfEra dayOfEra % 100 ≠ 99 ∨ yearOfEra dayOfEra % 400 = 399) := by
    simp only [daysInEra] at within
    simp only [yearOfEra, dayOfYear, daysBeforeYear] at *
    omega
  simp only [isLeap, Bool.and_eq_true, Bool.or_eq_true, decide_eq_true_eq]
  generalize yearOfEra dayOfEra = year at leap
  omega

end Era

theorem monthOfYear_bounds {dayOfYear : Int} (natural : 0 ≤ dayOfYear) (within : dayOfYear ≤ 365) :
    0 ≤ monthOfYear dayOfYear ∧ monthOfYear dayOfYear < 12 ∧
      daysBeforeMonth (monthOfYear dayOfYear) ≤ dayOfYear ∧
      dayOfYear < daysBeforeMonth (monthOfYear dayOfYear + 1) := by
  simp only [monthOfYear, daysBeforeMonth]
  omega

section Month

variable {year month day : Int} (first : 0 ≤ month) (last : month < 12)
include first last

theorem toDays_ofMarch (natural : 0 ≤ day) :
    (ofMarch year month day).toDays =
      year / 400 * daysInEra + daysBeforeYear (year % 400) + daysBeforeMonth month + day -
        daysToEpoch := by
  by_cases early : month < 10
  · simp only [ofMarch, toDays, early, if_true]
    rw [if_neg (by omega)]
    congr 3
    · congr 1
      omega
    · omega
  · simp only [ofMarch, toDays, early, if_false]
    rw [if_pos (by omega), if_pos (by omega), Int.add_sub_cancel]
    congr 3
    · congr 1
      omega
    · omega

theorem month_ofMarch_bounds (year day : Int) :
    1 ≤ (ofMarch year month day).month ∧ (ofMarch year month day).month ≤ 12 := by
  simp only [ofMarch]
  split <;> omega

theorem daysInMonth_ofMarch :
    (daysInMonth (ofMarch year month day).year (ofMarch year month day).month : Int) =
      if month = 11 then (if isLeap (year + 1) then 29 else 28)
      else daysBeforeMonth (month + 1) - daysBeforeMonth month := by
  by_cases february : month = 11
  · subst february
    simp only [if_true]
    split
    next leap => exact congrArg Nat.cast (if_pos leap)
    next common => exact congrArg Nat.cast (if_neg common)
  · rw [if_neg february]
    have before : month < 11 := by omega
    interval_cases month <;> rfl

theorem isValid_ofMarch (natural : 0 ≤ day)
    (within : day < daysBeforeMonth (month + 1) - daysBeforeMonth month)
    (short : daysBeforeMonth month + day ≤ 365)
    (leap : daysBeforeMonth month + day = 365 → isLeap (year + 1)) :
    (ofMarch year month day).isValid := by
  have months := month_ofMarch_bounds first last year day
  have count : ((ofMarch year month day).day : Int) = day + 1 := by
    simp only [ofMarch]
    omega
  have days : ((ofMarch year month day).day : Int) ≤
      daysInMonth (ofMarch year month day).year (ofMarch year month day).month := by
    rw [daysInMonth_ofMarch first last, count]
    split
    next february =>
      subst february
      have before : daysBeforeMonth 11 = 337 := rfl
      split
      next => omega
      next common =>
        have other : daysBeforeMonth 11 + day ≠ 365 := fun same => common (leap same)
        omega
    next => omega
  have day : 1 ≤ (ofMarch year month day).day := by omega
  simp only [isValid, Bool.and_eq_true, decide_eq_true_eq]
  exact ⟨⟨months, day⟩, by omega⟩

end Month

theorem dayOfEra_bounds (days : Int) :
    0 ≤ (days + daysToEpoch) % daysInEra ∧ (days + daysToEpoch) % daysInEra < daysInEra := by
  simp only [daysInEra]
  omega

theorem toDays_ofDays (days : Int) : (ofDays days).toDays = days := by
  obtain ⟨natural, within⟩ := dayOfEra_bounds days
  obtain ⟨early, late⟩ := yearOfEra_bounds natural within
  obtain ⟨start, short⟩ := dayOfYear_bounds natural within
  obtain ⟨first, last, begun, -⟩ := monthOfYear_bounds start short
  rw [ofDays_eq, toDays_ofMarch first last (by omega), Int.add_mul_ediv_right _ _ (by decide),
    Int.ediv_eq_zero_of_lt early late, Int.zero_add, Int.add_mul_emod_self_right,
    Int.emod_eq_of_lt early late]
  have eras := Int.ediv_mul_add_emod (days + daysToEpoch) daysInEra
  have years : dayOfYear ((days + daysToEpoch) % daysInEra) =
      (days + daysToEpoch) % daysInEra -
        daysBeforeYear (yearOfEra ((days + daysToEpoch) % daysInEra)) := rfl
  omega

theorem isValid_ofDays (days : Int) : (ofDays days).isValid := by
  obtain ⟨natural, within⟩ := dayOfEra_bounds days
  obtain ⟨start, short⟩ := dayOfYear_bounds natural within
  obtain ⟨first, last, begun, ended⟩ := monthOfYear_bounds start short
  rw [ofDays_eq]
  apply isValid_ofMarch first last
  · omega
  · omega
  · omega
  · intro ends
    exact isLeap_of_dayOfYear natural within (by omega) _

end Provision.Date
