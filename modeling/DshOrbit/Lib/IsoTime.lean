import DshOrbit.Lib.JsString
import Mathlib.Data.Nat.Log
import Mathlib.Tactic.IntervalCases
import Mathlib.Tactic.Linarith
import Mathlib.Tactic.Ring

/-!
# Instants and their ISO 8601 texts

An instant is its number of milliseconds since the epoch, as `Date.getTime`
returns it. The calendar is the proleptic Gregorian one in UTC, computed in
400-year eras whose years start in March.

## Main definitions

- `civilOfDays`, `daysOfCivil` — a day number and its year, month and day
- `toIsoString` — `Date.prototype.toISOString`
- `dateParse` — `Date.parse` of the texts that `toISOString` writes

## Main results

- `daysOfCivil_civilOfDays` — the calendar date determines the day
- `dateParse_toIsoString` — the text of an instant parses back to it
-/

namespace DshOrbit.Lib

/-! ### The calendar -/

structure CivilDate where
  year : ℤ
  month : ℤ
  day : ℤ
  deriving DecidableEq

/-- The century of an era, and the year of it, that a day of the era falls in. -/
def centuryOfEra (dayOfEra : ℤ) : ℤ := (4 * dayOfEra + 3) / 146097

def yearOfCentury (dayOfCentury : ℤ) : ℤ := (4 * dayOfCentury + 3) / 1461

/-- The days of an era before the first of March of one of its years. -/
def daysBeforeYear (yearOfEra : ℤ) : ℤ := 365 * yearOfEra + yearOfEra / 4 - yearOfEra / 100

def civilOfDays (days : ℤ) : CivilDate :=
  let shifted := days + 719468
  let era := shifted / 146097
  let dayOfEra := shifted % 146097
  let century := centuryOfEra dayOfEra
  let year := 100 * century + yearOfCentury (dayOfEra - 36524 * century)
  let dayOfYear := dayOfEra - daysBeforeYear year
  let month := (5 * dayOfYear + 2) / 153
  { year := 400 * era + year + (if month < 10 then 0 else 1)
    month := if month < 10 then month + 3 else month - 9
    day := dayOfYear - (153 * month + 2) / 5 + 1 }

def daysOfCivil (date : CivilDate) : ℤ :=
  let year := if date.month ≤ 2 then date.year - 1 else date.year
  let month := if date.month ≤ 2 then date.month + 9 else date.month - 3
  146097 * (year / 400) + daysBeforeYear (year % 400) + (153 * month + 2) / 5 + (date.day - 1) -
    719468

theorem centuryOfEra_bounds {d : ℤ} (h0 : 0 ≤ d) (h1 : d < 146097) :
    0 ≤ centuryOfEra d ∧ centuryOfEra d ≤ 3 ∧ 0 ≤ d - 36524 * centuryOfEra d ∧
      d - 36524 * centuryOfEra d ≤ 36524 := by
  unfold centuryOfEra
  refine ⟨?_, ?_, ?_, ?_⟩ <;> omega

theorem yearOfCentury_bounds {d : ℤ} (h0 : 0 ≤ d) (h1 : d ≤ 36524) :
    0 ≤ yearOfCentury d ∧ yearOfCentury d ≤ 99 ∧
      0 ≤ d - (365 * yearOfCentury d + yearOfCentury d / 4) ∧
      d - (365 * yearOfCentury d + yearOfCentury d / 4) ≤ 365 := by
  unfold yearOfCentury
  refine ⟨?_, ?_, ?_, ?_⟩ <;> omega

theorem daysBeforeYear_century {century year : ℤ} (h0 : 0 ≤ year) (h1 : year ≤ 99) :
    daysBeforeYear (100 * century + year) = 36524 * century + (365 * year + year / 4) := by
  unfold daysBeforeYear
  omega

/-- The March-based month of a day of the year, and the day within it. -/
theorem monthOfYear_bounds {d : ℤ} (h0 : 0 ≤ d) (h1 : d ≤ 365) :
    0 ≤ (5 * d + 2) / 153 ∧ (5 * d + 2) / 153 ≤ 11 ∧
      0 ≤ d - (153 * ((5 * d + 2) / 153) + 2) / 5 ∧
      d - (153 * ((5 * d + 2) / 153) + 2) / 5 ≤ 30 := by
  refine ⟨?_, ?_, ?_, ?_⟩ <;> omega

/-- The parts of a date, before the year is moved back to January. -/
theorem civilOfDays_spec (days : ℤ) :
    ∃ era year month day : ℤ,
      (0 ≤ year ∧ year ≤ 399) ∧ (0 ≤ month ∧ month ≤ 11) ∧ (0 ≤ day ∧ day ≤ 30) ∧
      civilOfDays days =
        ⟨400 * era + year + (if month < 10 then 0 else 1),
          if month < 10 then month + 3 else month - 9, day + 1⟩ ∧
      days = 146097 * era + daysBeforeYear year + (153 * month + 2) / 5 + day - 719468 := by
  have hd0 : 0 ≤ (days + 719468) % 146097 := Int.emod_nonneg _ (by decide)
  have hd1 : (days + 719468) % 146097 < 146097 := Int.emod_lt_of_pos _ (by decide)
  have hsplit := Int.mul_ediv_add_emod (days + 719468) 146097
  generalize hera : (days + 719468) / 146097 = era at hsplit
  generalize hdoe : (days + 719468) % 146097 = dayOfEra at hd0 hd1 hsplit
  obtain ⟨hc0, hc1, hc2, hc3⟩ := centuryOfEra_bounds hd0 hd1
  generalize hcentury : centuryOfEra dayOfEra = century at hc0 hc1 hc2 hc3
  obtain ⟨hy0, hy1, hy2, hy3⟩ := yearOfCentury_bounds hc2 hc3
  generalize hyear : yearOfCentury (dayOfEra - 36524 * century) = year at hy0 hy1 hy2 hy3
  have hbefore := @daysBeforeYear_century century _ hy0 hy1
  obtain ⟨hm0, hm1, hm2, hm3⟩ := monthOfYear_bounds hy2 hy3
  have hdoy : dayOfEra - daysBeforeYear (100 * century + year) =
      dayOfEra - 36524 * century - (365 * year + year / 4) := by rw [hbefore]; ring
  refine ⟨era, 100 * century + year, _, _, ⟨by omega, by omega⟩, ⟨hm0, hm1⟩, ⟨hm2, hm3⟩, ?_, ?_⟩
  · simp only [civilOfDays, hera, hdoe, hcentury, hyear, hdoy]
  · rw [hbefore]
    omega

theorem daysOfCivil_civilOfDays (days : ℤ) : daysOfCivil (civilOfDays days) = days := by
  obtain ⟨era, year, month, day, hyear, hmonth, -, hcivil, hdays⟩ := civilOfDays_spec days
  rw [hcivil, hdays]
  simp only [daysOfCivil]
  by_cases h : month < 10
  · have h2 : ¬(month + 3 ≤ 2) := by omega
    have h400 : (400 * era + year + 0) / 400 = era := by omega
    have hmod : (400 * era + year + 0) % 400 = year := by omega
    simp only [if_pos h, if_neg h2, h400, hmod]
    ring_nf
  · have h2 : month - 9 ≤ 2 := by omega
    have h400 : (400 * era + year + 1 - 1) / 400 = era := by omega
    have hmod : (400 * era + year + 1 - 1) % 400 = year := by omega
    simp only [if_neg h, if_pos h2, h400, hmod]
    ring_nf

theorem civilOfDays_month (days : ℤ) :
    1 ≤ (civilOfDays days).month ∧ (civilOfDays days).month ≤ 12 := by
  obtain ⟨era, year, month, day, -, hmonth, -, hcivil, -⟩ := civilOfDays_spec days
  rw [hcivil]
  dsimp only
  split_ifs <;> omega

theorem civilOfDays_day (days : ℤ) :
    1 ≤ (civilOfDays days).day ∧ (civilOfDays days).day ≤ 31 := by
  obtain ⟨era, year, month, day, -, -, hday, hcivil, -⟩ := civilOfDays_spec days
  rw [hcivil]
  dsimp only
  omega

/-! ### Texts -/

/-- The last `width` decimal digits of a number. -/
def padDigits : ℕ → ℕ → List Char
  | 0, _ => []
  | width + 1, n => padDigits width (n / 10) ++ [Char.ofNat (48 + n % 10)]

/-- The number that digits denote; `none` where a character is not a digit. -/
def readDigits (chars : List Char) : Option ℕ :=
  if chars.all isDigitChar then
    some (chars.foldl (fun value c => value * 10 + (c.toNat - 48)) 0)
  else none

def msPerDay : ℤ := 24 * 60 * 60 * 1000

/-- The digits of an expanded year: six, or more beyond the range of `Date`. -/
def yearWidth (year : ℕ) : ℕ := max 6 (Nat.log 10 year + 1)

/-- Four digits for the years 0 to 9999, a sign and more digits for the others. -/
def yearChars (year : ℤ) : List Char :=
  if 0 ≤ year ∧ year ≤ 9999 then padDigits 4 year.toNat
  else (if year < 0 then '-' else '+') :: padDigits (yearWidth year.natAbs) year.natAbs

/-- The text of an instant after its year. -/
def restChars (t : ℤ) : List Char :=
  let date := civilOfDays (t / msPerDay)
  let ms := (t % msPerDay).toNat
  ['-'] ++ padDigits 2 date.month.toNat ++ ['-'] ++ padDigits 2 date.day.toNat ++ ['T'] ++
    padDigits 2 (ms / 3600000) ++ [':'] ++ padDigits 2 (ms / 60000 % 60) ++ [':'] ++
    padDigits 2 (ms / 1000 % 60) ++ ['.'] ++ padDigits 3 (ms % 1000) ++ ['Z']

/-- The characters of the text of an instant. -/
def toIsoChars (t : ℤ) : List Char :=
  yearChars (civilOfDays (t / msPerDay)).year ++ restChars t

def toIsoString (t : ℤ) : String := String.ofList (toIsoChars t)

/-- The instant of the parts of a date and time, where each is in its range. -/
def instantOfParts (year : ℤ) (month day hour minute second ms : ℕ) : Option ℤ :=
  if 1 ≤ month ∧ month ≤ 12 ∧ 1 ≤ day ∧ day ≤ 31 ∧ hour ≤ 23 ∧ minute ≤ 59 ∧ second ≤ 59 then
    some (daysOfCivil ⟨year, month, day⟩ * msPerDay +
      (((hour * 60 + minute) * 60 + second) * 1000 + ms : ℕ))
  else none

def readYear (chars : List Char) : Option ℤ :=
  match chars with
  | '+' :: digits => if digits.length < 6 then none else (readDigits digits).map Int.ofNat
  | '-' :: digits => if digits.length < 6 then none else (readDigits digits).map fun n : ℕ => -(n : ℤ)
  | digits => if digits.length = 4 then (readDigits digits).map Int.ofNat else none

/-- `Date.parse` of a text in the form `YYYY-MM-DDTHH:mm:ss.sssZ`, the one form
the program writes, read from its end; `none` is `NaN`. -/
def dateParseChars (chars : List Char) : Option ℤ := do
  let rest := chars.drop (chars.length - 20)
  guard (rest.getD 0 ' ' = '-' ∧ rest.getD 3 ' ' = '-' ∧ rest.getD 6 ' ' = 'T' ∧
    rest.getD 9 ' ' = ':' ∧ rest.getD 12 ' ' = ':' ∧ rest.getD 15 ' ' = '.' ∧
    rest.getD 19 ' ' = 'Z')
  let year ← readYear (chars.take (chars.length - 20))
  let month ← readDigits ((rest.drop 1).take 2)
  let day ← readDigits ((rest.drop 4).take 2)
  let hour ← readDigits ((rest.drop 7).take 2)
  let minute ← readDigits ((rest.drop 10).take 2)
  let second ← readDigits ((rest.drop 13).take 2)
  let ms ← readDigits ((rest.drop 16).take 3)
  instantOfParts year month day hour minute second ms

def dateParse (s : String) : Option ℤ := dateParseChars s.toList

example : dateParse "2024-02-29T23:59:59.999Z" = some 1709251199999 := by decide +kernel

@[simp]
theorem length_padDigits (width n : ℕ) : (padDigits width n).length = width := by
  induction width generalizing n with
  | zero => rfl
  | succ width ih => simp [padDigits, ih]

theorem toNat_digit {d : ℕ} (h : d < 10) : (Char.ofNat (48 + d)).toNat = 48 + d := by
  interval_cases d <;> rfl

theorem isDigitChar_digit {d : ℕ} (h : d < 10) : isDigitChar (Char.ofNat (48 + d)) = true := by
  interval_cases d <;> rfl

theorem all_padDigits (width n : ℕ) : (padDigits width n).all isDigitChar = true := by
  induction width generalizing n with
  | zero => rfl
  | succ width ih =>
    simp [padDigits, ih, isDigitChar_digit (Nat.mod_lt n (by norm_num : 0 < 10))]

/-- Padded digits read back as the number, while it fits the width. -/
theorem readDigits_padDigits {width n : ℕ} (h : n < 10 ^ width) :
    readDigits (padDigits width n) = some n := by
  simp only [readDigits, all_padDigits, if_true, Option.some.injEq]
  induction width generalizing n with
  | zero =>
    have : n = 0 := by simpa using h
    subst this
    rfl
  | succ width ih =>
    have hdiv : n / 10 < 10 ^ width := by
      rw [pow_succ] at h
      omega
    have hdigit := toNat_digit (Nat.mod_lt n (by norm_num : 0 < 10))
    simp only [padDigits, List.foldl_append, ih hdiv, List.foldl_cons, List.foldl_nil, hdigit]
    omega

theorem readYear_yearChars (year : ℤ) : readYear (yearChars year) = some year := by
  by_cases h : 0 ≤ year ∧ year ≤ 9999
  · obtain ⟨n, rfl⟩ := Int.eq_ofNat_of_zero_le h.1
    have hn : n < 10 ^ 4 := by omega
    have hread := readDigits_padDigits hn
    have hdigit := all_padDigits 4 n
    have hlen := length_padDigits 4 n
    simp only [yearChars, if_pos h, Int.toNat_natCast]
    generalize padDigits 4 n = digits at hread hdigit hlen
    match digits, hlen with
    | [a, b, c, d], hlen =>
      have ha : isDigitChar a = true := by
        simp only [List.all_cons, Bool.and_eq_true] at hdigit
        exact hdigit.1
      have hplus : a ≠ '+' := by
        rintro rfl
        revert ha
        decide
      have hminus : a ≠ '-' := by
        rintro rfl
        revert ha
        decide
      simp [readYear, hplus, hminus, hread]
  · have hwidth : year.natAbs < 10 ^ yearWidth year.natAbs := by
      have hlog := Nat.lt_pow_succ_log_self (b := 10) (by norm_num) year.natAbs
      have hmono := Nat.pow_le_pow_right (n := 10) (by norm_num)
        (le_max_right 6 (Nat.log 10 year.natAbs + 1))
      exact lt_of_lt_of_le hlog hmono
    have hread := readDigits_padDigits hwidth
    have hsix : ¬(yearWidth year.natAbs < 6) := not_lt.mpr (le_max_left _ _)
    simp only [yearChars, if_neg h]
    by_cases hneg : year < 0
    · have habs : -(year.natAbs : ℤ) = year := by omega
      simp only [if_pos hneg, readYear, length_padDigits, hsix, if_false, hread, Option.map_some,
        habs]
    · have habs : Int.ofNat year.natAbs = year := by
        rw [Int.ofNat_eq_natCast]
        omega
      simp only [if_neg hneg, readYear, length_padDigits, hsix, if_false, hread, Option.map_some,
        habs]

/-- Cutting a text of the ISO form at its separators gives back its parts. -/
theorem dateParseChars_parts {y mo d h mi s ms : List Char} (hmo : mo.length = 2)
    (hd : d.length = 2) (hh : h.length = 2) (hmi : mi.length = 2) (hs : s.length = 2)
    (hms : ms.length = 3) :
    dateParseChars (y ++ (['-'] ++ mo ++ ['-'] ++ d ++ ['T'] ++ h ++ [':'] ++ mi ++ [':'] ++ s ++
        ['.'] ++ ms ++ ['Z'])) =
      (do
        let year ← readYear y
        let month ← readDigits mo
        let day ← readDigits d
        let hour ← readDigits h
        let minute ← readDigits mi
        let second ← readDigits s
        let ms ← readDigits ms
        instantOfParts year month day hour minute second ms) := by
  match mo, d, h, mi, s, ms, hmo, hd, hh, hmi, hs, hms with
  | [_, _], [_, _], [_, _], [_, _], [_, _], [_, _, _], _, _, _, _, _, _ =>
    simp [dateParseChars]

/-- The text of an instant parses back to it. -/
theorem dateParse_toIsoString (t : ℤ) : dateParse (toIsoString t) = some t := by
  have hms0 : 0 ≤ t % msPerDay := Int.emod_nonneg _ (by decide)
  have hms1 : t % msPerDay < 86400000 := Int.emod_lt_of_pos _ (by decide)
  have hmonth := civilOfDays_month (t / msPerDay)
  have hday := civilOfDays_day (t / msPerDay)
  have hdays := daysOfCivil_civilOfDays (t / msPerDay)
  have hsplit := Int.mul_ediv_add_emod t msPerDay
  obtain ⟨month, hmo⟩ := Int.eq_ofNat_of_zero_le (a := (civilOfDays (t / msPerDay)).month)
    (by omega)
  obtain ⟨day, hda⟩ := Int.eq_ofNat_of_zero_le (a := (civilOfDays (t / msPerDay)).day) (by omega)
  obtain ⟨ms, hms⟩ := Int.eq_ofNat_of_zero_le hms0
  have hcivil : civilOfDays (t / msPerDay) = ⟨(civilOfDays (t / msPerDay)).year, month, day⟩ := by
    rw [← hmo, ← hda]
  generalize (civilOfDays (t / msPerDay)).year = year at hcivil
  rw [hcivil] at hmonth hday hdays
  rw [hms] at hms1 hsplit
  dsimp only at hmonth hday
  simp only [dateParse, toIsoString, String.toList_ofList, toIsoChars, restChars]
  rw [dateParseChars_parts (by simp) (by simp) (by simp) (by simp) (by simp) (by simp)]
  simp only [hcivil, hms, Int.toNat_natCast, readYear_yearChars]
  rw [readDigits_padDigits (by omega), readDigits_padDigits (by omega),
    readDigits_padDigits (by omega), readDigits_padDigits (by omega),
    readDigits_padDigits (by omega), readDigits_padDigits (by omega)]
  simp only [Option.bind_eq_bind, Option.bind_some, instantOfParts]
  rw [if_pos (by omega), hdays]
  have hparts : ((ms / 3600000 * 60 + ms / 60000 % 60) * 60 + ms / 1000 % 60) * 1000 + ms % 1000 =
      ms := by omega
  rw [hparts]
  congr 1
  linarith

end DshOrbit.Lib
