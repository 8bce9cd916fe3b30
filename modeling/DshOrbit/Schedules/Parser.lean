import DshOrbit.Fleet.Scheduler
import DshOrbit.Lib.IsoTime
import DshOrbit.Lib.JsNumber

/-!
# Cron expressions and intervals

When a schedule runs next (`registry/schedule-parser.mjs`). The cron search counts minutes
since the epoch in UTC; it jumps over a month, a day or an hour that does not match.

## Main definitions

- `parseCronField`, `parseCronExpression` — the values that each field admits
- `getNextCronOccurrence`, `getNextIntervalOccurrence` — the next instant
- `calculateNextRunAt` — the text stored for a schedule
-/

namespace DshOrbit.Schedules

open DshOrbit.Lib DshOrbit.Fleet

/-! ### Fields -/

/-- `for (let val = start; val <= end; val += step)`. -/
def stepValues (start stop step : ℤ) : List ℤ :=
  (List.range (((stop - start) / step).toNat + 1)).map fun k => start + step * k

/-- The integer a text denotes. -/
def integerOf (chars : List Char) : Option ℤ := (numberOfChars chars).bind isInteger?

def textOf (chars : List Char) : String := String.ofList chars

/-- The first and the last value of a part, before they are checked against the field. -/
def parseRange (rangePart : List Char) (min max : ℤ) (stepped : Bool) :
    Except SubmitError (ℤ × ℤ) :=
  if rangePart = ['*'] then .ok (min, max)
  else
    let bounds := rangePart.splitOn '-'
    if 2 < bounds.length ∨ bounds.any fun bound => (trimChars bound).isEmpty then
      .error ⟨"invalid-cron-range", "invalid range expression: " ++ textOf rangePart⟩
    else
      let first := integerOf (bounds.getD 0 [])
      let last := if bounds.length = 2 then integerOf (bounds.getD 1 [])
        else if stepped then some max else first
      match first, last with
      | some first, some last => .ok (first, last)
      | _, _ => .error ⟨"invalid-cron-number",
          "cron field values must be integers: " ++ textOf rangePart⟩

/-- One part of a comma list. -/
def parseCronPart (min max : ℤ) (allowSunday7 : Bool) (part : List Char) :
    Except SubmitError (List ℤ) :=
  if part = ['*'] then .ok (stepValues min max 1)
  else
    let stepParts := part.splitOn '/'
    if 2 < stepParts.length then
      .error ⟨"invalid-cron-step", "invalid step expression: " ++ textOf part⟩
    else
      let rangePart := stepParts.getD 0 []
      let step := if stepParts.length = 2 then integerOf (stepParts.getD 1 []) else some 1
      match step with
      | none => .error ⟨"invalid-cron-step",
          "step must be a positive integer: " ++ textOf (stepParts.getD 1 [])⟩
      | some step =>
        if step ≤ 0 then
          .error ⟨"invalid-cron-step",
            "step must be a positive integer: " ++ textOf (stepParts.getD 1 [])⟩
        else
          match parseRange rangePart min max (stepParts.length = 2) with
          | .error e => .error e
          | .ok (first, last) =>
            if first < min ∨ (if allowSunday7 then max + 1 else max) < last ∨ last < first then
              .error ⟨"invalid-cron-bounds", "cron values out of bounds [" ++ toString min ++
                ", " ++ toString max ++ "]: " ++ textOf rangePart⟩
            else
              .ok (((stepValues first last step).map fun value =>
                if allowSunday7 ∧ value = 7 then 0 else value).filter fun value =>
                  min ≤ value ∧ value ≤ max)

def parseCronParts (min max : ℤ) (allowSunday7 : Bool) :
    List (List Char) → Except SubmitError (List ℤ)
  | [] => .ok []
  | part :: rest =>
    match parseCronPart min max allowSunday7 part, parseCronParts min max allowSunday7 rest with
    | .error e, _ => .error e
    | .ok _, .error e => .error e
    | .ok values, .ok others => .ok (values ++ others)

def parseCronField (field : List Char) (min max : ℤ) (allowSunday7 : Bool := false) :
    Except SubmitError (List ℤ) :=
  if (trimChars field).isEmpty then .error ⟨"invalid-cron-field", "empty cron field"⟩
  else
    match parseCronParts min max allowSunday7 ((trimChars field).splitOn ',') with
    | .error e => .error e
    | .ok [] => .error ⟨"invalid-cron-field",
        "no valid values parsed for field: " ++ textOf field⟩
    | .ok values => .ok values

/-! ### Expressions -/

structure ParsedCron where
  minutes : List ℤ
  hours : List ℤ
  doms : List ℤ
  months : List ℤ
  dows : List ℤ
  deriving DecidableEq, Repr

/-- `split(/\s+/)` of a trimmed text. -/
def splitFields (chars : List Char) : List (List Char) :=
  match (chars.splitOnP isJsWhitespace).filter fun field => !field.isEmpty with
  | [] => [[]]
  | fields => fields

def parseCronExpression (cronStr : Option String) : Except SubmitError ParsedCron :=
  match cronStr with
  | none => .error ⟨"invalid-cron-expression", "cron expression must be a string"⟩
  | some text =>
    match splitFields (trimChars text.toList) with
    | [minute, hour, dom, month, dow] => do
      let minutes ← parseCronField minute 0 59
      let hours ← parseCronField hour 0 23
      let doms ← parseCronField dom 1 31
      let months ← parseCronField month 1 12
      let dows ← parseCronField dow 0 6 true
      return { minutes, hours, doms, months, dows }
    | fields => .error ⟨"invalid-cron-fields-count",
        "cron expression must contain exactly 5 whitespace-separated fields, got " ++
          toString fields.length⟩

/-! ### The search -/

def msPerMinute : ℤ := 60000

def minutesPerDay : ℤ := 1440

/-- The day of the week, 0 for Sunday. -/
def weekday (days : ℤ) : ℤ := (days + 4) % 7

/-- The day on which the month after that of a day begins. -/
def nextMonth (days : ℤ) : ℤ :=
  let date := civilOfDays days
  if date.month = 12 then daysOfCivil ⟨date.year + 1, 1, 1⟩
  else daysOfCivil ⟨date.year, date.month + 1, 1⟩

/-- The instants that `Date` can hold. -/
def dateLimit : ℤ := 8640000000000000

/-- The minute that a setter leaves in a `Date`; none where the date becomes invalid. -/
def dateMinute (minute : ℤ) : Option ℤ :=
  if minute * msPerMinute ≤ dateLimit then some minute else none

/-- `setUTCHours(0, 0, 0, 0)`. -/
def startOfDay (minute : ℤ) : Option ℤ := dateMinute (minute / minutesPerDay * minutesPerDay)

/-- What a round of the search does with its minute: it returns it, or goes on to another. -/
inductive Round
  | found
  | next (current : Option ℤ)
  deriving DecidableEq, Repr

namespace ParsedCron

def dayMatches (cron : ParsedCron) (days : ℤ) : Bool :=
  cron.doms.contains (civilOfDays days).day && cron.dows.contains (weekday days)

def round (cron : ParsedCron) (current : ℤ) : Round :=
  let days := current / minutesPerDay
  if !cron.months.contains (civilOfDays days).month then
    .next ((dateMinute (nextMonth days * minutesPerDay + current % minutesPerDay)).bind startOfDay)
  else if !cron.dayMatches days then
    .next ((dateMinute (current + minutesPerDay)).bind startOfDay)
  else if !cron.hours.contains (current % minutesPerDay / 60) then
    .next (dateMinute ((current / 60 + 1) * 60))
  else if !cron.minutes.contains (current % 60) then
    .next (dateMinute (current + 1))
  else .found

/-- The rounds of the search while the year of its minute is not past the last one; the year of an
invalid date is not. -/
def search (cron : ParsedCron) (maxSearchYear : ℤ) : ℕ → Option ℤ → Option ℤ
  | 0, _ => none
  | _ + 1, none => none
  | fuel + 1, some current =>
    if maxSearchYear < (civilOfDays (current / minutesPerDay)).year then none
    else
      match cron.round current with
      | .found => some current
      | .next minute => cron.search maxSearchYear fuel minute

end ParsedCron

/-- The minute after an instant, where the search starts. -/
def searchStart (fromDate : ℤ) : ℤ := fromDate / msPerMinute + 1

/-- The last year of the search. -/
def searchYear (fromDate : ℤ) : ℤ := (civilOfDays (searchStart fromDate / minutesPerDay)).year + 5

/-- As many rounds as there are minutes up to the end of the search. -/
def searchRounds (fromDate : ℤ) : ℕ :=
  (daysOfCivil ⟨searchYear fromDate + 1, 1, 1⟩ * minutesPerDay - searchStart fromDate).toNat + 1

/-- The next instant that a cron expression names, in milliseconds. -/
def getNextCronOccurrence (cron : ParsedCron) (fromDate : ℤ) : Except SubmitError ℤ :=
  match cron.search (searchYear fromDate) (searchRounds fromDate)
      (dateMinute (searchStart fromDate)) with
  | some minute => .ok (minute * msPerMinute)
  | none => .error ⟨"cron-unreachable", "no valid cron execution found within 5-year window"⟩

/-! ### Intervals and schedules -/

/-- `new Date(t).toISOString()`. -/
def dateText (t : ℤ) : Except SubmitError String :=
  if -dateLimit ≤ t ∧ t ≤ dateLimit then .ok (toIsoString t)
  else .error ⟨"", "Invalid time value"⟩

/-- `Number.isInteger(intervalMs) && intervalMs >= 1000`, and the integer. -/
def validInterval (intervalMs : Json) : Option ℤ :=
  match intervalMs with
  | .num number => (isInteger? number).filter fun value => 1000 ≤ value
  | _ => none

def getNextIntervalOccurrence (intervalMs : Json) (fromDate : ℤ) : Except SubmitError ℤ :=
  match validInterval intervalMs with
  | none => .error ⟨"invalid-interval", "intervalMs must be an integer >= 1000"⟩
  | some interval => .ok (fromDate + interval)

inductive ScheduleType
  | cron
  | interval
  | once
  deriving DecidableEq, Repr

/-- The instant of the next run; none for a schedule of type `once`. -/
def nextInstant (scheduleType : ScheduleType) (cronExpression : Option String)
    (intervalMs : Json) (fromDate : ℤ) : Except SubmitError (Option ℤ) :=
  match scheduleType with
  | .cron =>
    match parseCronExpression cronExpression with
    | .error e => .error e
    | .ok parsed => (getNextCronOccurrence parsed fromDate).map some
  | .interval => (getNextIntervalOccurrence intervalMs fromDate).map some
  | .once => .ok none

def calculateNextRunAt (scheduleType : ScheduleType) (cronExpression : Option String)
    (intervalMs : Json) (fromDate : ℤ) : Except SubmitError (Option String) :=
  match nextInstant scheduleType cronExpression intervalMs fromDate with
  | .error e => .error e
  | .ok none => .ok none
  | .ok (some t) => (dateText t).map some

example : calculateNextRunAt .cron (some "0 2 * * 1-5") .null 1709251199999 =
    .ok (some "2024-03-01T02:00:00.000Z") := by decide +kernel

end DshOrbit.Schedules
