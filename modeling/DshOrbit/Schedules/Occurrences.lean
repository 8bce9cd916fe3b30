import DshOrbit.Lib.Calendar
import DshOrbit.Schedules.Parser

/-!
# Occurrences of cron expressions

The search visits minutes in order and leaves out only minutes of a month, a day or an hour that
does not match. What it finds is the first minute that matches; the loop ends, and it ends with
nothing only where no minute matches within its last year and the range of `Date`.

## Main definitions

- `ParsedCron.isMatch` — a minute whose parts are all among the fields
- `ParsedCron.Leaves` — the loop leaves with a result
- `ParsedCron.AnswersWithin` — what is promised of the next occurrence

## Main results

- `search_isLeast` — the search finds the first minute that matches
- `answers_within` — the next occurrence from any instant
-/

namespace DshOrbit.Schedules

open DshOrbit.Lib DshOrbit.Fleet

namespace ParsedCron

variable {cron : ParsedCron}

/-- A minute whose month, day, weekday, hour and minute are among the fields. -/
def isMatch (cron : ParsedCron) (minute : ℤ) : Bool :=
  cron.months.contains (civilOfDays (minute / minutesPerDay)).month &&
    cron.dayMatches (minute / minutesPerDay) &&
    cron.hours.contains (minute % minutesPerDay / 60) && cron.minutes.contains (minute % 60)

theorem isMatch_iff {minute : ℤ} : cron.isMatch minute = true ↔
    cron.months.contains (civilOfDays (minute / minutesPerDay)).month = true ∧
      cron.dayMatches (minute / minutesPerDay) = true ∧
      cron.hours.contains (minute % minutesPerDay / 60) = true ∧
      cron.minutes.contains (minute % 60) = true := by
  rw [isMatch, Bool.and_eq_true, Bool.and_eq_true, Bool.and_eq_true, and_assoc, and_assoc]

end ParsedCron

theorem nextMonth_eq (days : ℤ) :
    nextMonth days = monthStart (monthIndex (civilOfDays days) + 1) := by
  obtain ⟨h1, h12⟩ := civilOfDays_month days
  rw [nextMonth, monthStart, monthIndex]
  by_cases hlast : (civilOfDays days).month = 12
  · have hyear : (12 * (civilOfDays days).year + ((civilOfDays days).month - 1) + 1) / 12 =
        (civilOfDays days).year + 1 := by omega
    have hmonth : (12 * (civilOfDays days).year + ((civilOfDays days).month - 1) + 1) % 12 = 0 := by
      omega
    rw [if_pos hlast, hyear, hmonth]
    rfl
  · have hyear : (12 * (civilOfDays days).year + ((civilOfDays days).month - 1) + 1) / 12 =
        (civilOfDays days).year := by omega
    have hmonth : (12 * (civilOfDays days).year + ((civilOfDays days).month - 1) + 1) % 12 + 1 =
        (civilOfDays days).month + 1 := by omega
    rw [if_neg hlast, hyear, hmonth]

/-- A month ends where the next one begins. -/
theorem month_of_lt_nextMonth {days days' : ℤ} (hle : days ≤ days') (hlt : days' < nextMonth days) :
    (civilOfDays days').month = (civilOfDays days).month := by
  rw [nextMonth_eq] at hlt
  have hsame : monthIndex (civilOfDays days') = monthIndex (civilOfDays days) :=
    monthIndex_eq_iff.mpr ⟨(monthStart_le days).trans hle, hlt⟩
  rw [(civilOfDays_of_monthIndex hsame).2, (@civilOfDays_of_monthIndex days _ rfl).2]

theorem lt_nextMonth (days : ℤ) : days < nextMonth days := by
  rw [nextMonth_eq]
  exact lt_monthStart_succ days

/-- A year begins on its first day. -/
theorem civilOfDays_year_le_iff {days year : ℤ} :
    (civilOfDays days).year ≤ year ↔ days < daysOfCivil ⟨year + 1, 1, 1⟩ := by
  have hbegin : daysOfCivil ⟨year + 1, 1, 1⟩ = monthStart (12 * (year + 1)) := by
    have hdiv : 12 * (year + 1) / 12 = year + 1 := by omega
    have hmod : 12 * (year + 1) % 12 = 0 := by omega
    rw [monthStart, hdiv, hmod]
    rfl
  have hyear := (@civilOfDays_of_monthIndex days _ rfl).1
  rw [hbegin, hyear]
  constructor
  · intro hle
    have hindex : monthIndex (civilOfDays days) + 1 ≤ 12 * (year + 1) := by omega
    exact lt_of_lt_of_le (lt_monthStart_succ days) (monthStart_strictMono.monotone hindex)
  · intro hlt
    have hindex := monthStart_strictMono.lt_iff_lt.mp (lt_of_le_of_lt (monthStart_le days) hlt)
    omega

theorem dateMinute_eq_some {minute found : ℤ} :
    dateMinute minute = some found ↔ minute * msPerMinute ≤ dateLimit ∧ minute = found := by
  rw [dateMinute]
  by_cases hlimit : minute * msPerMinute ≤ dateLimit
  · rw [if_pos hlimit, Option.some.injEq]
    exact (and_iff_right hlimit).symm
  · rw [if_neg hlimit]
    exact iff_of_false nofun fun h => hlimit h.1

namespace ParsedCron

variable {cron : ParsedCron} {maxSearchYear : ℤ}

/-! ### A round of the search -/

/-- The minutes from one to another do not match. -/
def Skips (cron : ParsedCron) (current next : ℤ) : Prop :=
  ∀ minute, current ≤ minute → minute < next → cron.isMatch minute = false

/-- What a round does, with the minute of a setter before the time of day is reset. -/
theorem round_cases (cron : ParsedCron) (current : ℤ) :
    (cron.round current = .found ∧ cron.isMatch current = true) ∨
      (∃ next, current < next ∧ cron.Skips current next ∧
        cron.round current = .next (dateMinute next)) ∨
      ∃ day kept, current < day * minutesPerDay ∧ cron.Skips current (day * minutesPerDay) ∧
        0 ≤ kept ∧ kept < minutesPerDay ∧
        cron.round current = .next ((dateMinute (day * minutesPerDay + kept)).bind startOfDay) := by
  have hperDay : minutesPerDay = 1440 := rfl
  rw [round]
  split_ifs with hmonth hday hhour hminute
  · rw [Bool.not_eq_true'] at hmonth
    have hnext := lt_nextMonth (current / minutesPerDay)
    refine .inr (.inr ⟨nextMonth (current / minutesPerDay), current % minutesPerDay, ?_, ?_,
      Int.emod_nonneg _ (by decide), Int.emod_lt_of_pos _ (by decide), rfl⟩)
    · rw [hperDay] at hnext ⊢
      omega
    · intro minute hfrom hto
      have hsame := @month_of_lt_nextMonth (current / minutesPerDay) (minute / minutesPerDay)
        (Int.ediv_le_ediv (by decide) hfrom) (Int.ediv_lt_of_lt_mul (by decide) hto)
      rw [isMatch, hsame, hmonth]
      rfl
  · rw [Bool.not_eq_true'] at hday
    have hsplit : current + minutesPerDay =
        (current / minutesPerDay + 1) * minutesPerDay + current % minutesPerDay := by
      rw [hperDay]
      omega
    rw [hsplit]
    refine .inr (.inr ⟨current / minutesPerDay + 1, current % minutesPerDay, ?_, ?_,
      Int.emod_nonneg _ (by decide), Int.emod_lt_of_pos _ (by decide), rfl⟩)
    · rw [hperDay]
      omega
    · intro minute hfrom hto
      have hsame : minute / minutesPerDay = current / minutesPerDay := by
        rw [hperDay] at hto ⊢
        omega
      rw [isMatch, hsame, hday, Bool.and_false]
      rfl
  · rw [Bool.not_eq_true'] at hhour
    refine .inr (.inl ⟨_, by omega, ?_, rfl⟩)
    intro minute hfrom hto
    have hsame : minute % minutesPerDay / 60 = current % minutesPerDay / 60 := by
      rw [hperDay]
      omega
    rw [isMatch, hsame, hhour, Bool.and_false]
    rfl
  · rw [Bool.not_eq_true'] at hminute
    refine .inr (.inl ⟨_, by omega, ?_, rfl⟩)
    intro minute hfrom hto
    obtain rfl : minute = current := by omega
    rw [isMatch, hminute, Bool.and_false]
  · rw [Bool.not_eq_true', Bool.not_eq_false] at hmonth hday hhour hminute
    exact .inl ⟨rfl, isMatch_iff.mpr ⟨hmonth, hday, hhour, hminute⟩⟩

theorem startOfDay_bind_eq_some {day kept next : ℤ} (h0 : 0 ≤ kept) (hlt : kept < minutesPerDay)
    (h : (dateMinute (day * minutesPerDay + kept)).bind startOfDay = some next) :
    next = day * minutesPerDay := by
  obtain ⟨minute, hminute, hstart⟩ := Option.bind_eq_some_iff.mp h
  obtain ⟨-, rfl⟩ := dateMinute_eq_some.mp hminute
  obtain ⟨-, rfl⟩ := dateMinute_eq_some.mp hstart
  have hperDay : minutesPerDay = 1440 := rfl
  rw [hperDay] at hlt ⊢
  omega

/-- A round goes on to a later minute, over minutes that do not match. -/
theorem round_next {current next : ℤ} (h : cron.round current = .next (some next)) :
    current < next ∧ cron.Skips current next ∧ next * msPerMinute ≤ dateLimit := by
  rcases round_cases cron current with
    ⟨hfound, -⟩ | ⟨minute, hlt, hskips, hround⟩ | ⟨day, kept, hlt, hskips, h0, hkept, hround⟩
  · rw [hfound] at h
    cases h
  · rw [hround, Round.next.injEq, dateMinute_eq_some] at h
    obtain ⟨hlimit, rfl⟩ := h
    exact ⟨hlt, hskips, hlimit⟩
  · rw [hround, Round.next.injEq] at h
    have hnext := startOfDay_bind_eq_some h0 hkept h
    obtain ⟨minute, -, hstart⟩ := Option.bind_eq_some_iff.mp h
    obtain ⟨hlimit, heq⟩ := dateMinute_eq_some.mp hstart
    rw [heq] at hlimit
    rw [hnext] at hlimit ⊢
    exact ⟨hlt, hskips, hlimit⟩

theorem round_found {current : ℤ} (h : cron.round current = .found) :
    cron.isMatch current = true := by
  rcases round_cases cron current with ⟨-, hmatch⟩ | ⟨_, -, -, hround⟩ | ⟨_, _, -, -, -, -, hround⟩
  · exact hmatch
  · rw [hround] at h
    cases h
  · rw [hround] at h
    cases h

/-- A round stays before a minute that matches. -/
theorem round_of_isMatch {current minute : ℤ} (hle : current ≤ minute)
    (hmatch : cron.isMatch minute = true) (hlimit : minute * msPerMinute < dateLimit) :
    cron.round current = .found ∨
      ∃ next, cron.round current = .next (some next) ∧ next ≤ minute := by
  have hskipped : ∀ next, cron.Skips current next → next ≤ minute := by
    intro next hskips
    by_contra hlt
    have hno := hskips minute hle (not_le.mp hlt)
    rw [hmatch] at hno
    cases hno
  have hperMinute : msPerMinute = 60000 := rfl
  have hdateLimit : dateLimit = 8640000000000000 := rfl
  have hperDay : minutesPerDay = 1440 := rfl
  rcases round_cases cron current with
    ⟨hfound, -⟩ | ⟨next, -, hskips, hround⟩ | ⟨day, kept, -, hskips, h0, hkept, hround⟩
  · exact .inl hfound
  · have hnext := hskipped next hskips
    refine .inr ⟨next, ?_, hnext⟩
    rw [hround, dateMinute, if_pos (by rw [hperMinute] at hlimit ⊢; omega)]
  · have hnext := hskipped _ hskips
    refine .inr ⟨day * minutesPerDay, ?_, hnext⟩
    have hday : (day * minutesPerDay + kept) / minutesPerDay = day := by
      rw [hperDay] at hkept ⊢
      omega
    rw [hround, dateMinute, if_pos, Option.bind_some, startOfDay, hday, dateMinute, if_pos]
    · rw [hperMinute] at hlimit ⊢
      omega
    · rw [hperDay] at hnext hkept ⊢
      rw [hperMinute, hdateLimit] at hlimit ⊢
      omega

/-! ### The search -/

/-- What the search finds is the first minute that matches, within its last year. -/
theorem search_isLeast {fuel : ℕ} {current found : ℤ}
    (h : cron.search maxSearchYear fuel (some current) = some found) :
    IsLeast {minute | current ≤ minute ∧ cron.isMatch minute = true} found ∧
      (civilOfDays (found / minutesPerDay)).year ≤ maxSearchYear := by
  induction fuel generalizing current with
  | zero => cases h
  | succ fuel ih =>
    rw [search] at h
    split_ifs at h with hyear
    cases hround : cron.round current with
    | found =>
      rw [hround] at h
      obtain rfl := Option.some.inj h
      exact ⟨⟨⟨le_rfl, round_found hround⟩, fun minute hminute => hminute.1⟩, not_lt.mp hyear⟩
    | next minute =>
      rw [hround] at h
      cases minute with
      | none => cases fuel <;> cases h
      | some next =>
        obtain ⟨hlt, hskips, -⟩ := round_next hround
        obtain ⟨⟨⟨hle, hmatch⟩, hleast⟩, hlast⟩ := ih h
        refine ⟨⟨⟨hlt.le.trans hle, hmatch⟩, ?_⟩, hlast⟩
        rintro minute ⟨hfrom, hminute⟩
        refine hleast ⟨?_, hminute⟩
        by_contra hearly
        rw [hskips minute hfrom (not_le.mp hearly)] at hminute
        cases hminute

/-- The instant that the search finds is one that `Date` can hold. -/
theorem search_le_dateLimit {fuel : ℕ} {current : Option ℤ} {found : ℤ}
    (hcurrent : ∀ minute ∈ current, minute * msPerMinute ≤ dateLimit)
    (h : cron.search maxSearchYear fuel current = some found) :
    found * msPerMinute ≤ dateLimit := by
  induction fuel generalizing current with
  | zero => cases h
  | succ fuel ih =>
    cases current with
    | none => cases h
    | some current =>
      rw [search] at h
      split_ifs at h
      cases hround : cron.round current with
      | found =>
        rw [hround] at h
        obtain rfl := Option.some.inj h
        exact hcurrent current rfl
      | next minute =>
        rw [hround] at h
        refine ih ?_ h
        rintro next hnext
        rw [Option.mem_def.mp hnext] at hround
        exact (round_next hround).2.2

/-- The search finds a minute if one matches. -/
theorem search_isSome {fuel : ℕ} {current minute : ℤ} (hle : current ≤ minute)
    (hmatch : cron.isMatch minute = true) (hlimit : minute * msPerMinute < dateLimit)
    (hyear : (civilOfDays (minute / minutesPerDay)).year ≤ maxSearchYear)
    (hfuel : (minute - current).toNat < fuel) :
    ∃ found, cron.search maxSearchYear fuel (some current) = some found := by
  induction fuel generalizing current with
  | zero => cases hfuel
  | succ fuel ih =>
    have hnow : (civilOfDays (current / minutesPerDay)).year ≤ maxSearchYear :=
      (civilOfDays_year_le (Int.ediv_le_ediv (by decide) hle)).trans hyear
    rw [search, if_neg (not_lt.mpr hnow)]
    rcases round_of_isMatch hle hmatch hlimit with hround | ⟨next, hround, hnext⟩
    · rw [hround]
      exact ⟨current, rfl⟩
    · have hlt := (round_next hround).1
      rw [hround]
      exact ih hnext (by omega)

/-! ### The loop ends -/

/-- The loop leaves with a result after the rounds from a candidate on. -/
inductive Leaves (cron : ParsedCron) (maxSearchYear : ℤ) : Option ℤ → Option ℤ → Prop
  | invalid : Leaves cron maxSearchYear none none
  | past {current : ℤ} (h : maxSearchYear < (civilOfDays (current / minutesPerDay)).year) :
      Leaves cron maxSearchYear (some current) none
  | found {current : ℤ} (h : (civilOfDays (current / minutesPerDay)).year ≤ maxSearchYear)
      (hround : cron.round current = .found) :
      Leaves cron maxSearchYear (some current) (some current)
  | next {current : ℤ} {minute result : Option ℤ}
      (h : (civilOfDays (current / minutesPerDay)).year ≤ maxSearchYear)
      (hround : cron.round current = .next minute) (hrest : Leaves cron maxSearchYear minute result) :
      Leaves cron maxSearchYear (some current) result

/-- The rounds of the search are enough for the loop to leave. -/
theorem leaves_search {fuel : ℕ} {current : ℤ}
    (hfuel : (daysOfCivil ⟨maxSearchYear + 1, 1, 1⟩ * minutesPerDay - current).toNat < fuel) :
    cron.Leaves maxSearchYear (some current) (cron.search maxSearchYear fuel (some current)) := by
  induction fuel generalizing current with
  | zero => cases hfuel
  | succ fuel ih =>
    rw [search]
    split_ifs with hyear
    · exact .past hyear
    · have hlast := civilOfDays_year_le_iff.mp (not_lt.mp hyear)
      have hperDay : minutesPerDay = 1440 := rfl
      cases hround : cron.round current with
      | found => exact .found (not_lt.mp hyear) hround
      | next minute =>
        cases minute with
        | none =>
          refine .next (not_lt.mp hyear) hround ?_
          cases fuel <;> exact .invalid
        | some next =>
          have hlt := (round_next hround).1
          refine .next (not_lt.mp hyear) hround (ih ?_)
          rw [hperDay] at hfuel hlast ⊢
          omega

end ParsedCron

/-! ### The next occurrence -/

theorem searchStart_le_iff {reference minute : ℤ} :
    searchStart reference ≤ minute ↔ reference < minute * msPerMinute := by
  have hpos : msPerMinute = 60000 := rfl
  rw [searchStart, hpos]
  omega

namespace ParsedCron

variable {cron : ParsedCron}

/-- The minutes after an instant that match. -/
def After (cron : ParsedCron) (fromDate : ℤ) : Set ℤ :=
  {minute | fromDate < minute * msPerMinute ∧ cron.isMatch minute = true}

theorem search_start {maxSearchYear fromDate found : ℤ} {fuel : ℕ}
    (h : cron.search maxSearchYear fuel (dateMinute (searchStart fromDate)) = some found) :
    IsLeast (cron.After fromDate) found ∧
      (civilOfDays (found / minutesPerDay)).year ≤ maxSearchYear ∧
      found * msPerMinute ≤ dateLimit := by
  have hlimit := search_le_dateLimit (fun minute hminute => ?_) h
  · rw [dateMinute] at h
    split_ifs at h
    · obtain ⟨hleast, hyear⟩ := search_isLeast h
      simp only [searchStart_le_iff] at hleast
      exact ⟨hleast, hyear, hlimit⟩
    · cases fuel <;> cases h
  · obtain ⟨hle, rfl⟩ := dateMinute_eq_some.mp hminute
    exact hle

/-- The answer is the first minute after an instant that matches, and there is none exactly when
no minute matches up to the end of a year. -/
structure Answers (cron : ParsedCron) (fromDate lastYear : ℤ) : Prop where
  least : ∀ t, getNextCronOccurrence cron fromDate = .ok t →
    ∃ minute, t = minute * msPerMinute ∧ IsLeast (cron.After fromDate) minute
  throws : (∃ e, getNextCronOccurrence cron fromDate = .error e) ↔
    ∀ minute ∈ cron.After fromDate, lastYear < (civilOfDays (minute / minutesPerDay)).year

/-- The last year is counted from the minute after the instant, and `Date` holds no instant past
its limit. -/
structure AnswersWithin (cron : ParsedCron) (fromDate : ℤ) : Prop where
  least : ∀ t, getNextCronOccurrence cron fromDate = .ok t →
    ∃ minute, t = minute * msPerMinute ∧ IsLeast (cron.After fromDate) minute
  throws : (∀ minute ∈ cron.After fromDate, minute * msPerMinute ≤ dateLimit →
    searchYear fromDate < (civilOfDays (minute / minutesPerDay)).year) →
    ∃ e, getNextCronOccurrence cron fromDate = .error e
  returns : ∀ minute ∈ cron.After fromDate, minute * msPerMinute < dateLimit →
    (civilOfDays (minute / minutesPerDay)).year ≤ searchYear fromDate →
    ∃ t, getNextCronOccurrence cron fromDate = .ok t
  leaves : cron.Leaves (searchYear fromDate) (dateMinute (searchStart fromDate))
    (cron.search (searchYear fromDate) (searchRounds fromDate) (dateMinute (searchStart fromDate)))

theorem getNextCronOccurrence_eq_ok {fromDate t : ℤ} :
    getNextCronOccurrence cron fromDate = .ok t ↔
      ∃ minute, cron.search (searchYear fromDate) (searchRounds fromDate)
        (dateMinute (searchStart fromDate)) = some minute ∧ t = minute * msPerMinute := by
  rw [getNextCronOccurrence]
  cases cron.search (searchYear fromDate) (searchRounds fromDate)
    (dateMinute (searchStart fromDate)) with
  | none => exact iff_of_false nofun nofun
  | some minute =>
    constructor
    · intro h
      exact ⟨minute, rfl, (Except.ok.inj h).symm⟩
    · rintro ⟨_, hfound, rfl⟩
      rw [Option.some.inj hfound]

theorem lt_searchRounds {fromDate minute : ℤ} (hfrom : searchStart fromDate ≤ minute)
    (hyear : (civilOfDays (minute / minutesPerDay)).year ≤ searchYear fromDate) :
    (minute - searchStart fromDate).toNat < searchRounds fromDate := by
  have hlast := civilOfDays_year_le_iff.mp hyear
  have hperDay : minutesPerDay = 1440 := rfl
  rw [searchRounds]
  rw [hperDay] at hlast ⊢
  omega

theorem next_isLeast {fromDate t : ℤ} (h : getNextCronOccurrence cron fromDate = .ok t) :
    ∃ minute, t = minute * msPerMinute ∧ IsLeast (cron.After fromDate) minute := by
  obtain ⟨minute, hsearch, rfl⟩ := getNextCronOccurrence_eq_ok.mp h
  exact ⟨minute, rfl, (search_start hsearch).1⟩

/-- The next occurrence is the first minute that matches; the search ends, and finds it if it lies
within the last year and before the last instant of `Date`. -/
theorem answers_within (cron : ParsedCron) (fromDate : ℤ) : cron.AnswersWithin fromDate where
  least _ h := next_isLeast h
  throws h := by
    cases hnext : getNextCronOccurrence cron fromDate with
    | error e => exact ⟨e, rfl⟩
    | ok t =>
      obtain ⟨minute, hsearch, rfl⟩ := getNextCronOccurrence_eq_ok.mp hnext
      obtain ⟨hleast, hyear, hlimit⟩ := search_start hsearch
      exact absurd (h minute hleast.1 hlimit) (not_lt.mpr hyear)
  returns minute := by
    rintro ⟨hfrom, hmatch⟩ hlimit hyear
    rw [← searchStart_le_iff] at hfrom
    have hperMinute : msPerMinute = 60000 := rfl
    have hstart : dateMinute (searchStart fromDate) = some (searchStart fromDate) := by
      rw [dateMinute, if_pos]
      rw [hperMinute] at hlimit ⊢
      omega
    obtain ⟨found, hfound⟩ :=
      search_isSome hfrom hmatch hlimit hyear (lt_searchRounds hfrom hyear)
    rw [← hstart] at hfound
    exact ⟨_, getNextCronOccurrence_eq_ok.mpr ⟨found, hfound, rfl⟩⟩
  leaves := by
    rw [dateMinute]
    split_ifs
    · exact leaves_search (Nat.lt_succ_self _)
    · exact .invalid

/-- Half a minute before the year 2099. -/
def endOf2098 : ℤ := 4070908770000

/-- The horizon of a start in the last minute of a year lies a year later: an occurrence of 2104 is
found from 2098 on. -/
theorem leap_day_found : ¬∀ text cron fromDate, parseCronExpression text = .ok cron →
    cron.Answers fromDate ((civilOfDays (fromDate / msPerDay)).year + 5) := by
  intro h
  have hcron : parseCronExpression (some "0 0 29 2 *") =
      .ok ⟨[0], [0], [29], [2], stepValues 0 6 1⟩ := by decide +kernel
  have hanswers := h _ _ endOf2098 hcron
  have hfound : getNextCronOccurrence ⟨[0], [0], [29], [2], stepValues 0 6 1⟩ endOf2098 =
      .ok (70561440 * msPerMinute) := by decide +kernel
  obtain ⟨minute, hminute, hleast⟩ := hanswers.least _ hfound
  have hnone : ∀ other ∈ After ⟨[0], [0], [29], [2], stepValues 0 6 1⟩ endOf2098,
      (civilOfDays (endOf2098 / msPerDay)).year + 5 <
        (civilOfDays (other / minutesPerDay)).year := by
    intro other hother
    have hle := hleast.2 hother
    have hperMinute : msPerMinute = 60000 := rfl
    rw [hperMinute] at hminute
    obtain rfl : minute = 70561440 := by omega
    exact lt_of_lt_of_le (by decide +kernel)
      (civilOfDays_year_le (Int.ediv_le_ediv (by decide : (0 : ℤ) < minutesPerDay) hle))
  obtain ⟨e, herror⟩ := hanswers.throws.mpr hnone
  rw [hfound] at herror
  cases herror

end ParsedCron

end DshOrbit.Schedules
