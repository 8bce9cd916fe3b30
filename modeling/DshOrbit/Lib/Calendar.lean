import DshOrbit.Lib.IsoTime
import Mathlib.Data.Int.ConditionallyCompleteOrder

/-!
# The order of the calendar

Months are numbered through the years. Each begins where the one before it ends, so the month of
a day is the one between whose beginning and end it lies.

## Main definitions

- `monthIndex` — the number of the month of a date
- `monthStart` — the first day of a month

## Main results

- `monthIndex_eq_iff` — the days of a month
- `monthIndex_le` — later days lie in later months
-/

namespace DshOrbit.Lib

/-- The number of the month of a date. -/
def monthIndex (date : CivilDate) : ℤ := 12 * date.year + (date.month - 1)

/-- The first day of a month. -/
def monthStart (n : ℤ) : ℤ := daysOfCivil ⟨n / 12, n % 12 + 1, 1⟩

theorem monthStart_lt_succ (n : ℤ) : monthStart n < monthStart (n + 1) := by
  have h0 := Int.emod_nonneg n (by decide : (12 : ℤ) ≠ 0)
  have h1 := Int.emod_lt_of_pos n (by decide : (0 : ℤ) < 12)
  have hn := Int.mul_ediv_add_emod n 12
  generalize hy : n / 12 = y at hn
  generalize hm : n % 12 = m at h0 h1 hn
  subst hn
  have hy' : (12 * y + m + 1) / 12 = y + (m + 1) / 12 := by omega
  have hm' : (12 * y + m + 1) % 12 = (m + 1) % 12 := by omega
  simp only [monthStart, hy, hm, hy', hm', daysOfCivil, daysBeforeYear]
  interval_cases m <;> norm_num
  omega

theorem monthStart_strictMono : StrictMono monthStart := strictMono_int_of_lt_succ monthStart_lt_succ

/-- A date is its month and the day of it. -/
theorem daysOfCivil_eq {date : CivilDate} (h1 : 1 ≤ date.month) (h12 : date.month ≤ 12) :
    daysOfCivil date = monthStart (monthIndex date) + (date.day - 1) := by
  have hyear : (12 * date.year + (date.month - 1)) / 12 = date.year := by omega
  have hmonth : (12 * date.year + (date.month - 1)) % 12 + 1 = date.month := by omega
  simp only [monthStart, monthIndex, hyear, hmonth, daysOfCivil]
  ring

theorem monthStart_le (days : ℤ) : monthStart (monthIndex (civilOfDays days)) ≤ days := by
  obtain ⟨h1, h12⟩ := civilOfDays_month days
  have hday := (civilOfDays_day days).1
  have heq := daysOfCivil_eq h1 h12
  rw [daysOfCivil_civilOfDays] at heq
  omega

/-- The end of a month of an era, whose years begin in March. -/
def monthEnd (year month : ℤ) : ℤ :=
  if month < 11 then daysBeforeYear year + (153 * (month + 1) + 2) / 5
  else if year < 399 then daysBeforeYear (year + 1)
  else 146097

/-- The parts of a date, with the day before the end of its month. -/
theorem civilOfDays_lt_monthEnd (days : ℤ) :
    ∃ era year month : ℤ, (0 ≤ year ∧ year ≤ 399) ∧ (0 ≤ month ∧ month ≤ 11) ∧
      monthIndex (civilOfDays days) = 12 * (400 * era + year) + month + 2 ∧
      days < 146097 * era + monthEnd year month - 719468 := by
  have hd0 : 0 ≤ (days + 719468) % 146097 := Int.emod_nonneg _ (by decide)
  have hd1 : (days + 719468) % 146097 < 146097 := Int.emod_lt_of_pos _ (by decide)
  have hsplit := Int.mul_ediv_add_emod (days + 719468) 146097
  generalize hera : (days + 719468) / 146097 = era at hsplit
  generalize hdoe : (days + 719468) % 146097 = dayOfEra at hd0 hd1 hsplit
  obtain ⟨hc0, hc1, hc2, hc3⟩ := centuryOfEra_bounds hd0 hd1
  have hlast : dayOfEra - 36524 * centuryOfEra dayOfEra < 36524 ∨ centuryOfEra dayOfEra = 3 := by
    unfold centuryOfEra
    omega
  generalize hcentury : centuryOfEra dayOfEra = century at hc0 hc1 hc2 hc3 hlast
  obtain ⟨hy0, hy1, hy2, hy3⟩ := yearOfCentury_bounds hc2 hc3
  have hnext : dayOfEra - 36524 * century <
      365 * (yearOfCentury (dayOfEra - 36524 * century) + 1) +
        (yearOfCentury (dayOfEra - 36524 * century) + 1) / 4 := by
    unfold yearOfCentury
    omega
  generalize hyear : yearOfCentury (dayOfEra - 36524 * century) = year at hy0 hy1 hy2 hy3 hnext
  have hbefore := @daysBeforeYear_century century _ hy0 hy1
  obtain ⟨hm0, hm1, hm2, hm3⟩ := monthOfYear_bounds hy2 hy3
  have hdoy : dayOfEra - daysBeforeYear (100 * century + year) =
      dayOfEra - 36524 * century - (365 * year + year / 4) := by rw [hbefore]; ring
  refine ⟨era, 100 * century + year, _, ⟨by omega, by omega⟩, ⟨hm0, hm1⟩, ?_, ?_⟩
  · simp only [monthIndex, civilOfDays, hera, hdoe, hcentury, hyear, hdoy]
    split_ifs <;> omega
  · unfold daysBeforeYear at hbefore
    unfold monthEnd daysBeforeYear
    split_ifs <;> omega

theorem monthStart_march {era year month : ℤ} (hy0 : 0 ≤ year) (hy1 : year ≤ 399) (hm0 : 0 ≤ month)
    (hm1 : month ≤ 11) :
    monthStart (12 * (400 * era + year) + month + 2 + 1) =
      146097 * era + monthEnd year month - 719468 := by
  have hdiv : (12 * (400 * era + year) + month + 2 + 1) / 12 =
      400 * era + year + (month + 3) / 12 := by omega
  have hmod : (12 * (400 * era + year) + month + 2 + 1) % 12 = (month + 3) % 12 := by omega
  simp only [monthStart, hdiv, hmod, daysOfCivil, monthEnd, daysBeforeYear]
  interval_cases month <;> norm_num <;> omega

theorem lt_monthStart_succ (days : ℤ) : days < monthStart (monthIndex (civilOfDays days) + 1) := by
  obtain ⟨era, year, month, ⟨hy0, hy1⟩, ⟨hm0, hm1⟩, hindex, hlt⟩ := civilOfDays_lt_monthEnd days
  rw [hindex, monthStart_march hy0 hy1 hm0 hm1]
  exact hlt

/-! ### The month of a day -/

/-- The days of a month. -/
theorem monthIndex_eq_iff {days n : ℤ} :
    monthIndex (civilOfDays days) = n ↔ monthStart n ≤ days ∧ days < monthStart (n + 1) := by
  constructor
  · rintro rfl
    exact ⟨monthStart_le days, lt_monthStart_succ days⟩
  · rintro ⟨hle, hlt⟩
    have hbegins := lt_of_le_of_lt (monthStart_le days) hlt
    have hends := lt_of_le_of_lt hle (lt_monthStart_succ days)
    rw [monthStart_strictMono.lt_iff_lt] at hbegins hends
    omega

/-- Later days lie in later months. -/
theorem monthIndex_le {days days' : ℤ} (h : days ≤ days') :
    monthIndex (civilOfDays days) ≤ monthIndex (civilOfDays days') := by
  have hlt := lt_of_le_of_lt ((monthStart_le days).trans h) (lt_monthStart_succ days')
  rw [monthStart_strictMono.lt_iff_lt] at hlt
  omega

/-- The year and the month of a day, from the number of the month. -/
theorem civilOfDays_of_monthIndex {days n : ℤ} (h : monthIndex (civilOfDays days) = n) :
    (civilOfDays days).year = n / 12 ∧ (civilOfDays days).month = n % 12 + 1 := by
  obtain ⟨h1, h12⟩ := civilOfDays_month days
  rw [monthIndex] at h
  omega

theorem civilOfDays_year_le {days days' : ℤ} (h : days ≤ days') :
    (civilOfDays days).year ≤ (civilOfDays days').year := by
  have hmonths := monthIndex_le h
  have hyear := (@civilOfDays_of_monthIndex days _ rfl).1
  have hyear' := (@civilOfDays_of_monthIndex days' _ rfl).1
  omega

end DshOrbit.Lib
