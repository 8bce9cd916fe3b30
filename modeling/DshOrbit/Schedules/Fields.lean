import DshOrbit.Schedules.Parser

/-!
# The grammar of cron fields

A field is a comma list of `*`, of a number and of a range, each with a step or without one. The
parser reads its numbers with `Number()`, which also takes texts that are not decimal digits, and
it does not take 7, the other name of Sunday, as the beginning of a stepped part.

## Main definitions

- `FieldRange` — the values of a field
- `PartSyntax` — the parts of a comma list
- `Denotes` — the values that a comma list with decimal numbers stands for
- `FieldRange.Meets` — the parser accepts exactly these lists, with their values
- `FieldRange.PlainIfReadable` — the condition under which it does

## Main results

- `meets_iff` — when the parser meets the grammar
-/

namespace DshOrbit.Schedules

open DshOrbit.Lib DshOrbit.Fleet

/-- The values of a field, and whether 7 is another name of its 0. -/
structure FieldRange where
  min : ℤ
  max : ℤ
  sunday7 : Bool
  nonneg : 0 ≤ min
  ordered : min ≤ max
  bounded : max + 1 < 2 ^ 53
  sunday : sunday7 = true → min = 0 ∧ max = 6

namespace FieldRange

/-- The last number that a field admits. -/
def top (field : FieldRange) : ℤ := if field.sunday7 then field.max + 1 else field.max

/-- The value that a number names. -/
def value (field : FieldRange) (n : ℤ) : ℤ := if field.sunday7 ∧ n = 7 then 0 else n

/-- The values named by every so many numbers of a range. -/
def stepped (field : FieldRange) (first last step : ℤ) : Set ℤ :=
  {v | ∃ k : ℕ, first + step * k ≤ last ∧ v = field.value (first + step * k)}

/-- What the parser makes of a field. -/
def parse (field : FieldRange) (chars : List Char) : Except SubmitError (List ℤ) :=
  parseCronField chars field.min field.max field.sunday7

end FieldRange

/-! ### Syntax -/

inductive RangeSyntax
  | all
  | single (number : List Char)
  | span (first last : List Char)
  deriving DecidableEq, Repr

structure PartSyntax where
  range : RangeSyntax
  step : Option (List Char)
  deriving DecidableEq, Repr

def RangeSyntax.chars : RangeSyntax → List Char
  | .all => ['*']
  | .single number => number
  | .span first last => first ++ '-' :: last

def PartSyntax.chars (part : PartSyntax) : List Char :=
  match part.step with
  | none => part.range.chars
  | some step => part.range.chars ++ '/' :: step

def fieldChars (parts : List PartSyntax) : List Char :=
  [','].intercalate (parts.map PartSyntax.chars)

def rangeSyntax (chars : List Char) : Option RangeSyntax :=
  if chars = ['*'] then some .all
  else
    match chars.splitOn '-' with
    | [number] => some (.single number)
    | [first, last] => some (.span first last)
    | _ => none

def partSyntax (chars : List Char) : Option PartSyntax :=
  match chars.splitOn '/' with
  | [range] => (rangeSyntax range).map fun range => ⟨range, none⟩
  | [range, step] => (rangeSyntax range).map fun range => ⟨range, some step⟩
  | _ => none

/-! ### Meaning -/

/-- The number of a text of decimal digits. -/
def decimal (chars : List Char) : Option ℤ := (readBase 10 chars).map Int.ofNat

/-- The integer that a text denotes: its digits, or else what `Number()` makes of it. -/
def loosely (chars : List Char) : Option ℤ :=
  if (trimChars chars).isEmpty then none
  else
    match decimal chars with
    | some n => some n
    | none => integerOf chars

namespace RangeSyntax

/-- The texts of the numbers of a range. -/
def numbers : RangeSyntax → List (List Char)
  | .all => []
  | .single number => [number]
  | .span first last => [first, last]

/-- The first and the last value of a range, where its numbers lie inside the field. -/
def bounds (field : FieldRange) (reads : List Char → Option ℤ) (stepped : Bool) :
    RangeSyntax → Option (ℤ × ℤ)
  | .all => some (field.min, field.max)
  | .single number => (reads number).bind fun n =>
      if field.min ≤ n ∧ n ≤ field.top then
        some (field.value n, if stepped then field.max else field.value n)
      else none
  | .span first last => (reads first).bind fun first => (reads last).bind fun last =>
      if field.min ≤ first ∧ first ≤ last ∧ last ≤ field.top then some (first, last) else none

end RangeSyntax

namespace PartSyntax

def numbers (part : PartSyntax) : List (List Char) := part.range.numbers ++ part.step.toList

def stepValue (reads : List Char → Option ℤ) (part : PartSyntax) : Option ℤ :=
  match part.step with
  | none => some 1
  | some step => (reads step).filter fun n => 1 ≤ n

/-- The numbers of a part are numbers, inside the field. -/
def Fits (field : FieldRange) (reads : List Char → Option ℤ) (part : PartSyntax) : Prop :=
  (part.range.bounds field reads part.step.isSome).isSome = true ∧
    (part.stepValue reads).isSome = true

/-- The values of a part. -/
def values (field : FieldRange) (reads : List Char → Option ℤ) (part : PartSyntax) : Set ℤ :=
  {v | ∃ first last step, part.range.bounds field reads part.step.isSome = some (first, last) ∧
    part.stepValue reads = some step ∧ v ∈ field.stepped first last step}

/-- All numbers of a part are written in decimal digits. -/
def Plain (part : PartSyntax) : Prop := ∀ number ∈ part.numbers, (decimal number).isSome = true

/-- A stepped part that begins at 7. -/
def FromSunday (field : FieldRange) (part : PartSyntax) : Prop :=
  field.sunday7 = true ∧ part.step.isSome = true ∧
    ∃ number, part.range = .single number ∧ loosely number = some 7

/-- The step of a part is a finite number. -/
def StepFinite (part : PartSyntax) : Prop := ∀ step ∈ part.step, (integerOf step).isSome = true

end PartSyntax

/-- A comma list with decimal numbers stands for a set of values. -/
def Denotes (field : FieldRange) (chars : List Char) (values : Set ℤ) : Prop :=
  ∃ parts : List PartSyntax, parts ≠ [] ∧ chars = fieldChars parts ∧
    (∀ part ∈ parts, part.Fits field decimal) ∧
    values = {v | ∃ part ∈ parts, v ∈ part.values field decimal}

namespace FieldRange

/-- The parser accepts exactly the lists of the grammar, with the values that they stand for. -/
structure Meets (field : FieldRange) (chars : List Char) : Prop where
  complete : ∀ values, Denotes field chars values →
    ∃ parsed, field.parse chars = .ok parsed ∧ {v | v ∈ parsed} = values
  sound : ∀ parsed, field.parse chars = .ok parsed → ∃ values, Denotes field chars values

/-- Where a field is, without the blanks around it, a list of the grammar over texts that denote
integers: there are no blanks and the numbers are written in decimal digits, exactly if no part
begins with 7 and a step, and each step is finite. -/
def PlainIfReadable (field : FieldRange) (chars : List Char) : Prop :=
  ∀ parts : List PartSyntax,
    ((trimChars chars).splitOn ',').map partSyntax = parts.map some →
    (∀ part ∈ parts, part.Fits field loosely) →
    ((trimChars chars = chars ∧ ∀ part ∈ parts, part.Plain) ↔
      ∀ part ∈ parts, ¬part.FromSunday field ∧ part.StepFinite)

end FieldRange

/-! ### Numbers -/

variable {field : FieldRange} {chars : List Char} {n : ℤ}

theorem FieldRange.top_lt (field : FieldRange) : field.top < 2 ^ 53 := by
  have hbounded := field.bounded
  rw [FieldRange.top]
  split_ifs <;> omega

theorem decimal_eq_some : decimal chars = some n ↔ ∃ m : ℕ, readBase 10 chars = some m ∧ n = m := by
  rw [decimal, Option.map_eq_some_iff]
  exact exists_congr fun m => and_congr_right fun _ => eq_comm

theorem not_blank_of_decimal (h : decimal chars = some n) : (trimChars chars).isEmpty = false := by
  obtain ⟨m, hm, -⟩ := decimal_eq_some.mp h
  obtain ⟨hne, hall⟩ := readBase_ten hm
  rw [trimChars_digits hall]
  exact List.isEmpty_eq_false_iff.mpr hne

theorem loosely_of_decimal (h : decimal chars = some n) : loosely chars = some n := by
  rw [loosely, not_blank_of_decimal h, if_neg Bool.false_ne_true, h]

theorem isInteger_natCast (m : ℕ) : isInteger? (m : ℚ) = some (m : ℤ) := by
  rw [isInteger?, Rat.den_natCast, if_pos rfl, Rat.num_natCast]

/-- The digits of a small number are read exactly. -/
theorem integerOf_decimal (h : decimal chars = some n) (hn : n < 2 ^ 53) :
    integerOf chars = some n := by
  obtain ⟨m, hm, rfl⟩ := decimal_eq_some.mp h
  rw [integerOf, numberOfChars_digits hm, roundDouble_natCast (by exact_mod_cast hn),
    Option.bind_some, isInteger_natCast]

/-- The digits of a large number are read as a large number. -/
theorem le_integerOf_decimal {k : ℤ} (h : decimal chars = some n) (hn : 2 ^ 53 ≤ n)
    (hk : integerOf chars = some k) : 2 ^ 53 ≤ k := by
  obtain ⟨m, hm, rfl⟩ := decimal_eq_some.mp h
  rw [integerOf, numberOfChars_digits hm] at hk
  obtain ⟨q, hq, hinteger⟩ := Option.bind_eq_some_iff.mp hk
  have hle := le_of_roundDouble (by exact_mod_cast hn) hq
  rw [isInteger?] at hinteger
  split_ifs at hinteger with hden
  obtain rfl := Option.some.inj hinteger
  have hnum : (q.num : ℚ) = q := Rat.coe_int_num_of_den_eq_one hden
  rw [← hnum] at hle
  exact_mod_cast hle

/-- The integer that the parser reads as a bound. -/
def coerced (chars : List Char) : Option ℤ :=
  if (trimChars chars).isEmpty then none else integerOf chars

/-- Inside a field it does not matter how a number is read. -/
theorem coerced_eq_some_iff (hn : n < 2 ^ 53) : coerced chars = some n ↔ loosely chars = some n := by
  rw [coerced, loosely]
  by_cases hblank : (trimChars chars).isEmpty = true
  · rw [if_pos hblank, if_pos hblank]
  · rw [if_neg hblank, if_neg hblank]
    cases hdecimal : decimal chars with
    | none => exact Iff.rfl
    | some m =>
      by_cases hm : m < 2 ^ 53
      · rw [integerOf_decimal hdecimal hm]
      · refine iff_of_false (fun hread => ?_) (fun heq => hm (Option.some.inj heq ▸ hn))
        exact absurd (le_integerOf_decimal hdecimal (not_lt.mp hm) hread) (not_le.mpr hn)

/-- Two readings of a step agree, or both pass over the whole field. -/
def SameStep (k m : ℤ) : Prop := m = k ∨ 2 ^ 53 ≤ k ∧ 2 ^ 53 ≤ m

theorem sameStep_of_decimal {k m : ℤ} (hdecimal : decimal chars = some m)
    (hread : integerOf chars = some k) : SameStep k m := by
  by_cases hm : m < 2 ^ 53
  · rw [integerOf_decimal hdecimal hm] at hread
    exact .inl (Option.some.inj hread)
  · exact .inr ⟨le_integerOf_decimal hdecimal (not_lt.mp hm) hread, not_lt.mp hm⟩

theorem integerOf_blank (h : (trimChars chars).isEmpty = true) : integerOf chars = some 0 := by
  rw [integerOf, numberOfChars, List.isEmpty_iff.mp h]
  rfl

theorem loosely_of_integerOf {k : ℤ} (h : integerOf chars = some k) (hk : 1 ≤ k) :
    ∃ m, loosely chars = some m ∧ 1 ≤ m ∧ SameStep k m := by
  have hblank : ¬(trimChars chars).isEmpty = true := by
    intro hblank
    rw [integerOf_blank hblank] at h
    have hzero := Option.some.inj h
    omega
  rw [loosely, if_neg hblank]
  cases hdecimal : decimal chars with
  | none => exact ⟨k, h, hk, .inl rfl⟩
  | some m =>
    have hsame := sameStep_of_decimal hdecimal h
    refine ⟨m, rfl, ?_, hsame⟩
    rcases hsame with heq | ⟨-, hm⟩ <;> omega

theorem integerOf_of_loosely {k m : ℤ} (hm : loosely chars = some m) (hpos : 1 ≤ m)
    (h : integerOf chars = some k) : 1 ≤ k ∧ SameStep k m := by
  rw [loosely] at hm
  split_ifs at hm
  cases hdecimal : decimal chars with
  | none =>
    rw [hdecimal] at hm
    obtain rfl := Option.some.inj (h.symm.trans hm)
    exact ⟨hpos, .inl rfl⟩
  | some d =>
    rw [hdecimal] at hm
    obtain rfl := Option.some.inj hm
    have hsame := sameStep_of_decimal hdecimal h
    refine ⟨?_, hsame⟩
    rcases hsame with heq | ⟨hk, -⟩ <;> omega

/-! ### The parser, part by part -/

namespace RangeSyntax

/-- The first and the last value that the parser reads. -/
def Reads (field : FieldRange) (stepped : Bool) : RangeSyntax → ℤ → ℤ → Prop
  | .all, first, last => first = field.min ∧ last = field.max
  | .single number, first, last =>
      coerced number = some first ∧ last = if stepped then field.max else first
  | .span number number', first, last => coerced number = some first ∧ coerced number' = some last

end RangeSyntax

theorem parseRange_eq_ok {stepped : Bool} {first last : ℤ} :
    parseRange chars field.min field.max stepped = .ok (first, last) ↔
      ∃ range, rangeSyntax chars = some range ∧ range.Reads field stepped first last := by
  rw [parseRange, rangeSyntax]
  by_cases hall : chars = ['*']
  · simp only [if_pos hall, Except.ok.injEq, Prod.mk.injEq, Option.some.injEq, exists_eq_left',
      RangeSyntax.Reads]
    exact and_congr eq_comm eq_comm
  · rw [if_neg hall, if_neg hall]
    match hbounds : chars.splitOn '-' with
    | [] => exact absurd hbounds (List.splitOn_ne_nil _ _)
    | [number] =>
      simp only [Option.some.injEq, exists_eq_left', RangeSyntax.Reads, coerced]
      by_cases hblank : (trimChars number).isEmpty = true
      · simp [hblank]
      · cases hnumber : integerOf number <;> cases stepped <;> simp [hblank, hnumber] <;> grind
    | [number, number'] =>
      simp only [Option.some.injEq, exists_eq_left', RangeSyntax.Reads, coerced]
      by_cases hblank : (trimChars number).isEmpty = true
      · simp [hblank]
      · by_cases hblank' : (trimChars number').isEmpty = true
        · simp [hblank']
        · cases hnumber : integerOf number <;> cases hnumber' : integerOf number' <;>
            simp [hblank, hblank', hnumber, hnumber']
    | _ :: _ :: _ :: _ => simp

namespace PartSyntax

/-- The step that the parser reads. -/
def coercedStep (part : PartSyntax) : Option ℤ :=
  match part.step with
  | none => some 1
  | some step => integerOf step

/-- What the loop of the parser runs over. -/
structure Runs (field : FieldRange) (part : PartSyntax) (first last step : ℤ) : Prop where
  reads : part.range.Reads field part.step.isSome first last
  step_eq : part.coercedStep = some step
  pos : 0 < step
  min_le : field.min ≤ first
  le : first ≤ last
  le_top : last ≤ field.top

end PartSyntax

theorem FieldRange.value_mem (field : FieldRange) {n : ℤ} (hmin : field.min ≤ n)
    (htop : n ≤ field.top) : field.min ≤ field.value n ∧ field.value n ≤ field.max := by
  have hsunday := field.sunday
  rw [FieldRange.top] at htop
  rw [FieldRange.value]
  cases hseven : field.sunday7 with
  | false =>
    rw [hseven, if_neg Bool.false_ne_true] at htop
    rw [if_neg fun h => Bool.false_ne_true h.1]
    exact ⟨hmin, htop⟩
  | true =>
    obtain ⟨h0, h6⟩ := hsunday hseven
    rw [hseven, if_pos rfl] at htop
    by_cases h : n = 7
    · rw [if_pos ⟨rfl, h⟩]
      omega
    · rw [if_neg fun hn => h hn.2]
      omega

theorem stepValues_eq (first last step : ℤ) : stepValues first last step =
    (List.range (((last - first) / step).toNat + 1)).map fun k : ℕ => first + step * (k : ℤ) := by
  simp only [stepValues, List.pure_def, List.bind_eq_flatMap, ← List.map_eq_flatMap, List.map_map]
  rfl

theorem mem_stepValues {first last step v : ℤ} (hpos : 0 < step) (hle : first ≤ last) :
    v ∈ stepValues first last step ↔ ∃ k : ℕ, first + step * k ≤ last ∧ v = first + step * k := by
  rw [stepValues_eq, List.mem_map]
  refine exists_congr fun k => and_congr ?_ eq_comm
  have hdiv : (k : ℤ) ≤ (last - first) / step ↔ k * step ≤ last - first :=
    Int.le_ediv_iff_mul_le hpos
  have hnonneg : 0 ≤ (last - first) / step := Int.ediv_nonneg (by omega) hpos.le
  rw [List.mem_range, mul_comm step]
  omega

/-- The values of the loop of the parser. -/
theorem mem_loop {first last step v : ℤ} (hpos : 0 < step) (hmin : field.min ≤ first)
    (hle : first ≤ last) (htop : last ≤ field.top) :
    v ∈ (((stepValues first last step).map fun value =>
      if field.sunday7 ∧ value = 7 then 0 else value).filter fun value =>
        field.min ≤ value ∧ value ≤ field.max) ↔ v ∈ field.stepped first last step := by
  rw [List.mem_filter, List.mem_map]
  constructor
  · rintro ⟨⟨number, hnumber, rfl⟩, -⟩
    obtain ⟨k, hk, rfl⟩ := (mem_stepValues hpos hle).mp hnumber
    exact ⟨k, hk, rfl⟩
  · rintro ⟨k, hk, rfl⟩
    refine ⟨⟨_, (mem_stepValues hpos hle).mpr ⟨k, hk, rfl⟩, rfl⟩, decide_eq_true ?_⟩
    have hstep : 0 ≤ step * k := mul_nonneg hpos.le (Int.natCast_nonneg k)
    exact field.value_mem (by omega) (by omega)

theorem partSyntax_star : partSyntax ['*'] = some ⟨.all, none⟩ := rfl

theorem runs_star (field : FieldRange) :
    PartSyntax.Runs field ⟨.all, none⟩ field.min field.max 1 where
  reads := ⟨rfl, rfl⟩
  step_eq := rfl
  pos := by decide
  min_le := le_rfl
  le := field.ordered
  le_top := by
    rw [FieldRange.top]
    split_ifs <;> omega

/-- The loop runs over the range that is read. -/
theorem loop_of_range {stepped : Bool} {step : ℤ} {values : List ℤ} (hpos : 0 < step)
    {e : ℤ → ℤ → SubmitError}
    (h : (match parseRange chars field.min field.max stepped with
      | .error e => .error e
      | .ok (first, last) =>
        if first < field.min ∨ (if field.sunday7 then field.max + 1 else field.max) < last ∨
            last < first then .error (e first last)
        else
          .ok (((stepValues first last step).map fun value =>
            if field.sunday7 ∧ value = 7 then 0 else value).filter fun value =>
              field.min ≤ value ∧ value ≤ field.max) : Except SubmitError (List ℤ)) = .ok values) :
    ∃ range first last, rangeSyntax chars = some range ∧ range.Reads field stepped first last ∧
      field.min ≤ first ∧ first ≤ last ∧ last ≤ field.top ∧
      {v | v ∈ values} = field.stepped first last step := by
  cases hrange : parseRange chars field.min field.max stepped with
  | error e =>
    rw [hrange] at h
    cases h
  | ok pair =>
    obtain ⟨first, last⟩ := pair
    rw [hrange] at h
    dsimp only at h
    by_cases hbounds : first < field.min ∨ field.top < last ∨ last < first
    · rw [FieldRange.top] at hbounds
      rw [if_pos hbounds] at h
      cases h
    rw [FieldRange.top] at hbounds
    rw [if_neg hbounds] at h
    rw [← FieldRange.top, not_or, not_or, not_lt, not_lt, not_lt] at hbounds
    obtain ⟨hmin, htop, hle⟩ := hbounds
    obtain ⟨range, hwritten, hreads⟩ := parseRange_eq_ok.mp hrange
    refine ⟨range, first, last, hwritten, hreads, hmin, hle, htop, Set.ext fun v => ?_⟩
    rw [← Except.ok.inj h]
    exact mem_loop hpos hmin hle htop

/-- What is parsed of a part. -/
theorem parseCronPart_eq_ok {values : List ℤ}
    (h : parseCronPart field.min field.max field.sunday7 chars = .ok values) :
    ∃ part first last step, partSyntax chars = some part ∧ part.Runs field first last step ∧
      {v | v ∈ values} = field.stepped first last step := by
  rw [parseCronPart] at h
  by_cases hall : chars = ['*']
  · rw [if_pos hall] at h
    obtain rfl := Except.ok.inj h
    have hruns := runs_star field
    refine ⟨_, _, _, _, hall ▸ partSyntax_star, hruns, Set.ext fun v => ?_⟩
    have hvalue : ∀ k : ℕ, field.min + 1 * k ≤ field.max →
        field.value (field.min + 1 * k) = field.min + 1 * k := by
      intro k hk
      rw [FieldRange.value, if_neg]
      rintro ⟨hseven, h7⟩
      obtain ⟨-, h6⟩ := field.sunday hseven
      omega
    refine (mem_stepValues hruns.pos hruns.le).trans ?_
    refine exists_congr fun k => and_congr_right fun hk => ?_
    rw [hvalue k hk]
  · rw [if_neg hall] at h
    match hsteps : chars.splitOn '/' with
    | [] => exact absurd hsteps (List.splitOn_ne_nil _ _)
    | [rangeChars] =>
      rw [hsteps] at h
      obtain ⟨range, first, last, hrange, hreads, hmin, hle, htop, hvalues⟩ :=
        loop_of_range (by decide) h
      refine ⟨⟨range, none⟩, first, last, 1, ?_, ⟨hreads, rfl, by decide, hmin, hle, htop⟩, hvalues⟩
      rw [partSyntax, hsteps]
      exact Option.map_eq_some_iff.mpr ⟨range, hrange, rfl⟩
    | [rangeChars, stepChars] =>
      rw [hsteps] at h
      dsimp only at h
      rw [if_neg (show ¬2 < [rangeChars, stepChars].length from lt_irrefl 2),
        if_pos (show [rangeChars, stepChars].length = 2 from rfl)] at h
      cases hstep : integerOf stepChars with
      | none =>
        have hread : integerOf ([rangeChars, stepChars].getD 1 []) = none := hstep
        rw [hread] at h
        cases h
      | some step =>
        have hread : integerOf ([rangeChars, stepChars].getD 1 []) = some step := hstep
        rw [hread] at h
        dsimp only at h
        by_cases hpos : step ≤ 0
        · rw [if_pos hpos] at h
          cases h
        · rw [if_neg hpos] at h
          obtain ⟨range, first, last, hrange, hreads, hmin, hle, htop, hvalues⟩ :=
            loop_of_range (not_le.mp hpos) h
          refine ⟨⟨range, some stepChars⟩, first, last, step, ?_,
            ⟨hreads, hstep, not_le.mp hpos, hmin, hle, htop⟩, hvalues⟩
          rw [partSyntax, hsteps]
          exact Option.map_eq_some_iff.mpr ⟨range, hrange, rfl⟩
    | _ :: _ :: _ :: _ =>
      rw [hsteps] at h
      dsimp only at h
      rw [if_pos (by simp only [List.length_cons]; omega)] at h
      cases h

/-- A range that is read inside its field passes the checks. -/
theorem range_passes {stepped : Bool} {range : RangeSyntax} {first last step : ℤ}
    {e : ℤ → ℤ → SubmitError} (hrange : rangeSyntax chars = some range)
    (hreads : range.Reads field stepped first last) (hmin : field.min ≤ first) (hle : first ≤ last)
    (htop : last ≤ field.top) :
    ∃ values, (match parseRange chars field.min field.max stepped with
      | .error e => .error e
      | .ok (first, last) =>
        if first < field.min ∨ (if field.sunday7 then field.max + 1 else field.max) < last ∨
            last < first then .error (e first last)
        else
          .ok (((stepValues first last step).map fun value =>
            if field.sunday7 ∧ value = 7 then 0 else value).filter fun value =>
              field.min ≤ value ∧ value ≤ field.max) : Except SubmitError (List ℤ)) = .ok values := by
  have hbounds : ¬(first < field.min ∨ (if field.sunday7 then field.max + 1 else field.max) < last ∨
      last < first) := by
    rw [← FieldRange.top]
    omega
  rw [parseRange_eq_ok.mpr ⟨range, hrange, hreads⟩]
  dsimp only
  rw [if_neg hbounds]
  exact ⟨_, rfl⟩

/-- A part that the loop can run over is accepted. -/
theorem parseCronPart_of_runs {part : PartSyntax} {first last step : ℤ}
    (hwritten : partSyntax chars = some part) (hruns : part.Runs field first last step) :
    ∃ values, parseCronPart field.min field.max field.sunday7 chars = .ok values := by
  rw [parseCronPart]
  by_cases hall : chars = ['*']
  · rw [if_pos hall]
    exact ⟨_, rfl⟩
  · rw [if_neg hall]
    rw [partSyntax] at hwritten
    match hsteps : chars.splitOn '/' with
    | [] => exact absurd hsteps (List.splitOn_ne_nil _ _)
    | [rangeChars] =>
      rw [hsteps] at hwritten
      obtain ⟨range, hrange, rfl⟩ := Option.map_eq_some_iff.mp hwritten
      exact range_passes hrange hruns.reads hruns.min_le hruns.le hruns.le_top
    | [rangeChars, stepChars] =>
      rw [hsteps] at hwritten
      obtain ⟨range, hrange, rfl⟩ := Option.map_eq_some_iff.mp hwritten
      dsimp only
      have hread : integerOf ([rangeChars, stepChars].getD 1 []) = some step := hruns.step_eq
      rw [if_neg (show ¬2 < [rangeChars, stepChars].length from lt_irrefl 2),
        if_pos (show [rangeChars, stepChars].length = 2 from rfl), hread]
      dsimp only
      rw [if_neg (not_le.mpr hruns.pos)]
      exact range_passes hrange hruns.reads hruns.min_le hruns.le hruns.le_top
    | _ :: _ :: _ :: _ =>
      rw [hsteps] at hwritten
      cases hwritten

/-! ### What is read and what is meant -/

theorem FieldRange.value_value (field : FieldRange) (n : ℤ) :
    field.value (field.value n) = field.value n := by
  rw [FieldRange.value, FieldRange.value]
  split_ifs <;> grind

theorem FieldRange.value_of_le_max (field : FieldRange) {n : ℤ} (h : n ≤ field.max) :
    field.value n = n := by
  rw [FieldRange.value, if_neg]
  rintro ⟨hseven, rfl⟩
  have h6 := (field.sunday hseven).2
  omega

theorem FieldRange.eq_seven (field : FieldRange) {n : ℤ} (hmax : field.max < n)
    (htop : n ≤ field.top) : field.sunday7 = true ∧ n = 7 := by
  rw [FieldRange.top] at htop
  cases hseven : field.sunday7 with
  | false =>
    rw [hseven, if_neg Bool.false_ne_true] at htop
    omega
  | true =>
    rw [hseven, if_pos rfl] at htop
    have h6 := (field.sunday hseven).2
    exact ⟨rfl, by omega⟩

theorem FieldRange.stepped_single (field : FieldRange) (n step : ℤ) (hpos : 0 < step) :
    field.stepped n n step = {field.value n} := by
  ext v
  constructor
  · rintro ⟨k, hk, rfl⟩
    have hzero : step * k = 0 := by
      have hnonneg : 0 ≤ step * k := mul_nonneg hpos.le (Int.natCast_nonneg k)
      omega
    rw [hzero, add_zero]
    rfl
  · rintro rfl
    exact ⟨0, by simp, by simp⟩

/-- A step past the end of a range leaves its first value. -/
theorem FieldRange.stepped_congr (field : FieldRange) {first last step step' : ℤ}
    (hmin : field.min ≤ first) (hle : first ≤ last) (htop : last ≤ field.top)
    (hsame : SameStep step step') :
    field.stepped first last step = field.stepped first last step' := by
  obtain rfl | ⟨hstep, hstep'⟩ := hsame
  · rfl
  · have honly : ∀ step : ℤ, 2 ^ 53 ≤ step →
        field.stepped first last step = {field.value first} := by
      intro step hlarge
      have hnonneg := field.nonneg
      have hlast := field.top_lt
      ext v
      constructor
      · rintro ⟨k, hk, rfl⟩
        have hzero : k = 0 := by
          by_contra hk0
          have hmul : step * 1 ≤ step * k :=
            mul_le_mul_of_nonneg_left (by omega) (by omega)
          omega
        rw [hzero]
        simp
      · rintro rfl
        exact ⟨0, by simpa using hle, by simp⟩
    rw [honly step hstep, honly step' hstep']

/-- The range that is read has a meaning, with the same values. -/
theorem RangeSyntax.Reads.bounds {range : RangeSyntax} {stepped : Bool} {first last : ℤ}
    (h : range.Reads field stepped first last) (hmin : field.min ≤ first) (hle : first ≤ last)
    (htop : last ≤ field.top) :
    ∃ first' last', range.bounds field loosely stepped = some (first', last') ∧
      field.min ≤ first' ∧ first' ≤ last' ∧ last' ≤ field.top ∧
      ∀ step, 0 < step → field.stepped first last step = field.stepped first' last' step := by
  have hbelow := field.top_lt
  cases range with
  | all =>
    obtain ⟨rfl, rfl⟩ := h
    exact ⟨_, _, rfl, hmin, hle, htop, fun _ _ => rfl⟩
  | single number =>
    obtain ⟨hfirst, hlast⟩ := h
    rw [coerced_eq_some_iff (by omega)] at hfirst
    have hbounds : RangeSyntax.bounds field loosely stepped (.single number) =
        some (field.value first, if stepped then field.max else field.value first) := by
      rw [RangeSyntax.bounds, hfirst, Option.bind_some, if_pos ⟨hmin, hle.trans htop⟩]
    obtain ⟨hvmin, hvmax⟩ := field.value_mem hmin (hle.trans htop)
    refine ⟨_, _, hbounds, hvmin, ?_⟩
    cases stepped with
    | true =>
      rw [if_pos rfl] at hlast ⊢
      subst hlast
      rw [field.value_of_le_max hle]
      exact ⟨hle, htop, fun _ _ => rfl⟩
    | false =>
      rw [if_neg Bool.false_ne_true] at hlast ⊢
      subst hlast
      have hmax : field.max ≤ field.top := (runs_star field).le_top
      refine ⟨le_rfl, hvmax.trans hmax, fun step hpos => ?_⟩
      rw [field.stepped_single _ _ hpos, field.stepped_single _ _ hpos, field.value_value]
  | span number number' =>
    obtain ⟨hfirst, hlast⟩ := h
    rw [coerced_eq_some_iff (by omega)] at hfirst hlast
    refine ⟨first, last, ?_, hmin, hle, htop, fun _ _ => rfl⟩
    rw [RangeSyntax.bounds, hfirst, Option.bind_some, hlast, Option.bind_some,
      if_pos ⟨hmin, hle, htop⟩]

namespace PartSyntax

variable {part : PartSyntax} {first last step : ℤ}

theorem Runs.stepValue (h : part.Runs field first last step) :
    part.StepFinite ∧ ∃ m, part.stepValue loosely = some m ∧ SameStep step m := by
  obtain ⟨range, stepChars⟩ := part
  have hstep := h.step_eq
  cases stepChars with
  | none => exact ⟨nofun, 1, rfl, .inl (Option.some.inj hstep)⟩
  | some stepChars =>
    obtain ⟨m, hm, hpos, hsame⟩ := loosely_of_integerOf hstep h.pos
    refine ⟨fun chars hchars => ?_, m, ?_, hsame⟩
    · rw [← Option.some.inj hchars, show integerOf stepChars = some step from hstep]
      rfl
    · show (loosely stepChars).filter (fun n => decide (1 ≤ n)) = some m
      rw [hm]
      exact Option.filter_some_pos (decide_eq_true hpos)

theorem Runs.not_fromSunday (h : part.Runs field first last step) : ¬part.FromSunday field := by
  rintro ⟨hseven, hstepped, number, hrange, hnumber⟩
  have hreads := h.reads
  have hbelow := field.top_lt
  have hle := h.le
  have htop := h.le_top
  rw [hrange, hstepped] at hreads
  obtain ⟨hfirst, hlast⟩ := hreads
  rw [if_pos rfl] at hlast
  rw [coerced_eq_some_iff (by omega), hnumber] at hfirst
  have h7 := Option.some.inj hfirst
  have h6 := (field.sunday hseven).2
  omega

/-- What the loop runs over is what the part means, read loosely. -/
theorem Runs.meaning (h : part.Runs field first last step) :
    part.Fits field loosely ∧ part.values field loosely = field.stepped first last step := by
  obtain ⟨first', last', hbounds, hmin, hle, htop, hvalues⟩ :=
    h.reads.bounds h.min_le h.le h.le_top
  obtain ⟨-, m, hm, hsame⟩ := h.stepValue
  refine ⟨⟨?_, ?_⟩, ?_⟩
  · rw [hbounds]
    rfl
  · rw [hm]
    rfl
  · rw [hvalues step h.pos, field.stepped_congr hmin hle htop hsame]
    ext v
    constructor
    · rintro ⟨_, _, _, hbounds', hm', hv⟩
      obtain ⟨rfl, rfl⟩ := Prod.mk.inj (Option.some.inj (hbounds.symm.trans hbounds'))
      obtain rfl := Option.some.inj (hm.symm.trans hm')
      exact hv
    · intro hv
      exact ⟨_, _, _, hbounds, hm, hv⟩

theorem Fits.reads (h : part.Fits field loosely) (hsunday : ¬part.FromSunday field) :
    ∃ first last, part.range.Reads field part.step.isSome first last ∧ field.min ≤ first ∧
      first ≤ last ∧ last ≤ field.top := by
  have hbelow := field.top_lt
  have hmax : field.max ≤ field.top := (runs_star field).le_top
  have hbounds := h.1
  cases hrange : part.range with
  | all => exact ⟨_, _, ⟨rfl, rfl⟩, le_rfl, field.ordered, hmax⟩
  | single number =>
    rw [hrange, RangeSyntax.bounds, Option.isSome_iff_exists] at hbounds
    obtain ⟨bounds, hbounds⟩ := hbounds
    obtain ⟨n, hn, hinside⟩ := Option.bind_eq_some_iff.mp hbounds
    have hn' : field.min ≤ n ∧ n ≤ field.top := by
      by_contra hn'
      rw [if_neg hn'] at hinside
      cases hinside
    obtain ⟨hmin, htop⟩ := hn'
    refine ⟨n, if part.step.isSome then field.max else n,
      ⟨(coerced_eq_some_iff (by omega)).mpr hn, rfl⟩, hmin, ?_⟩
    cases hstepped : part.step.isSome with
    | false => exact ⟨le_rfl, htop⟩
    | true =>
      refine ⟨?_, hmax⟩
      by_contra hlt
      obtain ⟨hseven, rfl⟩ := field.eq_seven (not_le.mp hlt) htop
      exact hsunday ⟨hseven, hstepped, number, hrange, hn⟩
  | span number number' =>
    rw [hrange, RangeSyntax.bounds, Option.isSome_iff_exists] at hbounds
    obtain ⟨bounds, hbounds⟩ := hbounds
    obtain ⟨first, hfirst, hrest⟩ := Option.bind_eq_some_iff.mp hbounds
    obtain ⟨last, hlast, hinside⟩ := Option.bind_eq_some_iff.mp hrest
    split_ifs at hinside with hn
    obtain ⟨hmin, hle, htop⟩ := hn
    exact ⟨first, last, ⟨(coerced_eq_some_iff (by omega)).mpr hfirst,
      (coerced_eq_some_iff (by omega)).mpr hlast⟩, hmin, hle, htop⟩

/-- A part that fits loosely, does not begin at 7 with a step and has a finite step is run
over. -/
theorem Fits.runs (h : part.Fits field loosely) (hsunday : ¬part.FromSunday field)
    (hfinite : part.StepFinite) : ∃ first last step, part.Runs field first last step := by
  obtain ⟨first, last, hreads, hmin, hle, htop⟩ := h.reads hsunday
  have hstep := h.2
  rw [PartSyntax.stepValue] at hstep
  cases hchars : part.step with
  | none =>
    refine ⟨first, last, 1, hreads, ?_, by decide, hmin, hle, htop⟩
    rw [coercedStep, hchars]
  | some stepChars =>
    rw [hchars, Option.isSome_iff_exists] at hstep
    obtain ⟨m, hm⟩ := hstep
    obtain ⟨hloose, hpos⟩ := Option.filter_eq_some_iff.mp hm
    obtain ⟨k, hk⟩ := Option.isSome_iff_exists.mp (hfinite stepChars hchars)
    refine ⟨first, last, k, hreads, ?_, (integerOf_of_loosely hloose (of_decide_eq_true hpos) hk).1,
      hmin, hle, htop⟩
    rw [coercedStep, hchars]
    exact hk

end PartSyntax

/-! ### The parser on a whole field -/

theorem parseCronParts_eq_ok {texts : List (List Char)} {values : List ℤ}
    (h : parseCronParts field.min field.max field.sunday7 texts = .ok values) :
    ∃ parts : List PartSyntax, texts.map partSyntax = parts.map some ∧
      (∀ part ∈ parts, ∃ first last step, part.Runs field first last step) ∧
      ∀ v, v ∈ values ↔ ∃ part ∈ parts, v ∈ part.values field loosely := by
  induction texts generalizing values with
  | nil =>
    obtain rfl := Except.ok.inj h
    exact ⟨[], rfl, nofun, fun v => by simp⟩
  | cons text rest ih =>
    rw [parseCronParts] at h
    cases hpart : parseCronPart field.min field.max field.sunday7 text with
    | error e =>
      rw [hpart] at h
      cases h
    | ok own =>
      cases hrest : parseCronParts field.min field.max field.sunday7 rest with
      | error e =>
        rw [hpart, hrest] at h
        cases h
      | ok others =>
        rw [hpart, hrest] at h
        obtain rfl := Except.ok.inj h
        obtain ⟨parts, hwritten, hruns, hvalues⟩ := ih hrest
        obtain ⟨part, first, last, step, hpartSyntax, hpartRuns, hown⟩ := parseCronPart_eq_ok hpart
        refine ⟨part :: parts, ?_, ?_, fun v => ?_⟩
        · rw [List.map_cons, List.map_cons, hpartSyntax, hwritten]
        · rintro other hother
          rcases List.mem_cons.mp hother with rfl | hother
          · exact ⟨first, last, step, hpartRuns⟩
          · exact hruns other hother
        · have hv : v ∈ own ↔ v ∈ part.values field loosely := by
            rw [hpartRuns.meaning.2, ← hown]
            exact Iff.rfl
          rw [List.mem_append, hv, hvalues, List.exists_mem_cons_iff]

theorem parseCronParts_of_runs {texts : List (List Char)} {parts : List PartSyntax}
    (hwritten : texts.map partSyntax = parts.map some)
    (hruns : ∀ part ∈ parts, ∃ first last step, part.Runs field first last step) :
    ∃ values, parseCronParts field.min field.max field.sunday7 texts = .ok values := by
  induction texts generalizing parts with
  | nil => exact ⟨[], rfl⟩
  | cons text rest ih =>
    cases parts with
    | nil => cases hwritten
    | cons part parts =>
      obtain ⟨hpart, hrest⟩ := List.cons.inj hwritten
      obtain ⟨first, last, step, hpartRuns⟩ := hruns part (List.mem_cons_self ..)
      obtain ⟨own, hown⟩ := parseCronPart_of_runs hpart hpartRuns
      obtain ⟨others, hothers⟩ := ih hrest fun other hother => hruns other (List.mem_cons_of_mem _ hother)
      rw [parseCronParts, hown, hothers]
      exact ⟨own ++ others, rfl⟩

/-- What is accepted is a list of the grammar, loosely read. -/
theorem parse_eq_ok {values : List ℤ} (h : field.parse chars = .ok values) :
    ∃ parts : List PartSyntax, ((trimChars chars).splitOn ',').map partSyntax = parts.map some ∧
      (∀ part ∈ parts, ∃ first last step, part.Runs field first last step) ∧
      ∀ v, v ∈ values ↔ ∃ part ∈ parts, v ∈ part.values field loosely := by
  rw [FieldRange.parse, parseCronField] at h
  split_ifs at h
  cases hparts : parseCronParts field.min field.max field.sunday7
    ((trimChars chars).splitOn ',') with
  | error e =>
    rw [hparts] at h
    cases h
  | ok all =>
    rw [hparts] at h
    cases all with
    | nil => cases h
    | cons v rest =>
      obtain rfl := Except.ok.inj h
      exact parseCronParts_eq_ok hparts

theorem PartSyntax.Runs.nonempty {part : PartSyntax} {first last step : ℤ}
    (h : part.Runs field first last step) : field.value first ∈ part.values field loosely := by
  rw [h.meaning.2]
  exact ⟨0, by simpa using h.le, by simp⟩

theorem parse_of_runs {parts : List PartSyntax}
    (hwritten : ((trimChars chars).splitOn ',').map partSyntax = parts.map some)
    (hruns : ∀ part ∈ parts, ∃ first last step, part.Runs field first last step) :
    ∃ values, field.parse chars = .ok values := by
  obtain ⟨values, hvalues⟩ := parseCronParts_of_runs hwritten hruns
  rw [FieldRange.parse, parseCronField, if_neg, hvalues]
  · cases values with
    | cons v rest => exact ⟨_, rfl⟩
    | nil =>
      obtain ⟨parts', hwritten', -, hmem⟩ := parseCronParts_eq_ok hvalues
      cases parts' with
      | nil => exact absurd (List.map_eq_nil_iff.mp hwritten') (List.splitOn_ne_nil _ _)
      | cons part rest =>
        have hsame := List.map_injective_iff.mpr (Option.some_injective _) (hwritten'.symm.trans hwritten)
        obtain ⟨first, last, step, hpart⟩ := hruns part (hsame ▸ List.mem_cons_self ..)
        have hnone := (hmem (field.value first)).mpr ⟨part, List.mem_cons_self .., hpart.nonempty⟩
        cases hnone
  · intro hblank
    rw [List.isEmpty_iff.mp hblank] at hwritten
    cases parts with
    | nil => cases hwritten
    | cons part rest =>
      obtain ⟨hpart, -⟩ := List.cons.inj hwritten
      obtain ⟨first, last, step, hpartRuns⟩ := hruns part (List.mem_cons_self ..)
      obtain rfl : part = ⟨.single [], none⟩ := (Option.some.inj hpart).symm
      cases hpartRuns.reads.1

/-! ### Texts of the grammar -/

theorem loosely_eq_decimal (h : (decimal chars).isSome = true) : loosely chars = decimal chars := by
  obtain ⟨n, hn⟩ := Option.isSome_iff_exists.mp h
  rw [hn, loosely_of_decimal hn]

theorem digits_of_decimal (h : (decimal chars).isSome = true) :
    chars ≠ [] ∧ ∀ c ∈ chars, isDigitChar c = true := by
  obtain ⟨n, hn⟩ := Option.isSome_iff_exists.mp h
  obtain ⟨m, hm, -⟩ := decimal_eq_some.mp hn
  exact readBase_ten hm

theorem not_mem_of_decimal {c : Char} (h : (decimal chars).isSome = true)
    (hc : isDigitChar c = false) : c ∉ chars := by
  intro hmem
  rw [(digits_of_decimal h).2 c hmem] at hc
  cases hc

namespace RangeSyntax

variable {range : RangeSyntax} {stepped : Bool}

theorem bounds_of_plain (h : ∀ number ∈ range.numbers, (decimal number).isSome = true) :
    range.bounds field loosely stepped = range.bounds field decimal stepped := by
  cases range with
  | all => rfl
  | single number =>
    rw [bounds, bounds, loosely_eq_decimal (h number (List.mem_cons_self ..))]
  | span first last =>
    rw [bounds, bounds, loosely_eq_decimal (h first (List.mem_cons_self ..)),
      loosely_eq_decimal (h last (List.mem_cons_of_mem _ (List.mem_cons_self ..)))]

theorem plain_of_bounds (h : (range.bounds field decimal stepped).isSome = true) :
    ∀ number ∈ range.numbers, (decimal number).isSome = true := by
  rw [Option.isSome_iff_exists] at h
  obtain ⟨bounds, h⟩ := h
  cases range with
  | all => exact nofun
  | single number =>
    obtain ⟨n, hn, -⟩ := Option.bind_eq_some_iff.mp h
    intro other hother
    rw [List.mem_singleton.mp hother, hn]
    rfl
  | span first last =>
    obtain ⟨n, hn, hrest⟩ := Option.bind_eq_some_iff.mp h
    obtain ⟨m, hm, -⟩ := Option.bind_eq_some_iff.mp hrest
    intro other hother
    rcases List.mem_cons.mp hother with rfl | hother
    · rw [hn]
      rfl
    · rw [List.mem_singleton.mp hother, hm]
      rfl

/-- The characters of a range with decimal numbers. -/
theorem chars_of_plain (h : ∀ number ∈ range.numbers, (decimal number).isSome = true) :
    ∀ c ∈ range.chars, c = '*' ∨ c = '-' ∨ isDigitChar c = true := by
  intro c hc
  cases range with
  | all => exact .inl (List.mem_singleton.mp hc)
  | single number => exact .inr (.inr ((digits_of_decimal (h number (List.mem_cons_self ..))).2 c hc))
  | span first last =>
    rcases List.mem_append.mp hc with hfirst | hrest
    · exact .inr (.inr ((digits_of_decimal (h first (List.mem_cons_self ..))).2 c hfirst))
    · rcases List.mem_cons.mp hrest with rfl | hlast
      · exact .inr (.inl rfl)
      · exact .inr (.inr ((digits_of_decimal (h last
          (List.mem_cons_of_mem _ (List.mem_cons_self ..)))).2 c hlast))

/-- A range with decimal numbers is read back from its text. -/
theorem rangeSyntax_chars (h : ∀ number ∈ range.numbers, (decimal number).isSome = true) :
    rangeSyntax range.chars = some range := by
  cases range with
  | all => rfl
  | single number =>
    have hnumber := h number (List.mem_cons_self ..)
    have hstar : number ≠ ['*'] := by
      rintro rfl
      exact not_mem_of_decimal hnumber rfl (List.mem_cons_self ..)
    rw [rangeSyntax, chars, if_neg hstar, List.splitOn_eq_singleton (not_mem_of_decimal hnumber rfl)]
  | span first last =>
    have hfirst := h first (List.mem_cons_self ..)
    have hlast := h last (List.mem_cons_of_mem _ (List.mem_cons_self ..))
    have hstar : first ++ '-' :: last ≠ ['*'] := by
      intro heq
      have hmem : '-' ∈ ['*'] := heq ▸ List.mem_append_right _ (List.mem_cons_self ..)
      exact absurd hmem (by decide)
    rw [rangeSyntax, chars, if_neg hstar,
      List.splitOn_append_cons_self_of_not_mem (not_mem_of_decimal hfirst rfl),
      List.splitOn_eq_singleton (not_mem_of_decimal hlast rfl)]

end RangeSyntax

theorem intercalate_pair (separator : Char) (text other : List Char) :
    [separator].intercalate [text, other] = text ++ separator :: other := by
  rw [List.intercalate_cons_cons, List.intercalate_singleton, List.append_assoc,
    List.singleton_append]

theorem rangeSyntax_eq_some {range : RangeSyntax} (h : rangeSyntax chars = some range) :
    range.chars = chars := by
  have hback : List.intercalate ['-'] (chars.splitOn '-') = chars := List.intercalate_splitOn '-'
  rw [rangeSyntax] at h
  split_ifs at h with hall
  · rw [← Option.some.inj h, hall]
    rfl
  · match hbounds : chars.splitOn '-' with
    | [] => exact absurd hbounds (List.splitOn_ne_nil _ _)
    | [number] =>
      rw [hbounds] at h hback
      rw [List.intercalate_singleton] at hback
      rw [← Option.some.inj h, ← hback]
      rfl
    | [first, last] =>
      rw [hbounds] at h hback
      rw [intercalate_pair] at hback
      rw [← Option.some.inj h, ← hback]
      rfl
    | _ :: _ :: _ :: _ =>
      rw [hbounds] at h
      cases h

theorem partSyntax_eq_some {part : PartSyntax} (h : partSyntax chars = some part) :
    part.chars = chars := by
  have hback : List.intercalate ['/'] (chars.splitOn '/') = chars := List.intercalate_splitOn '/'
  rw [partSyntax] at h
  match hsteps : chars.splitOn '/' with
  | [] => exact absurd hsteps (List.splitOn_ne_nil _ _)
  | [rangeChars] =>
    rw [hsteps] at h hback
    obtain ⟨range, hrange, rfl⟩ := Option.map_eq_some_iff.mp h
    rw [List.intercalate_singleton] at hback
    rw [PartSyntax.chars, rangeSyntax_eq_some hrange, ← hback]
  | [rangeChars, stepChars] =>
    rw [hsteps] at h hback
    obtain ⟨range, hrange, rfl⟩ := Option.map_eq_some_iff.mp h
    rw [intercalate_pair] at hback
    rw [PartSyntax.chars, rangeSyntax_eq_some hrange, ← hback]
  | _ :: _ :: _ :: _ =>
    rw [hsteps] at h
    cases h

namespace PartSyntax

variable {part : PartSyntax}

theorem Plain.range (h : part.Plain) :
    ∀ number ∈ part.range.numbers, (decimal number).isSome = true :=
  fun number hnumber => h number (List.mem_append_left _ hnumber)

theorem Plain.step (h : part.Plain) : ∀ step ∈ part.step, (decimal step).isSome = true :=
  fun step hstep => h step (List.mem_append_right _ (Option.mem_toList.mpr hstep))

theorem stepValue_of_plain (h : part.Plain) : part.stepValue loosely = part.stepValue decimal := by
  obtain ⟨range, step⟩ := part
  cases step with
  | none => rfl
  | some step =>
    show (loosely step).filter _ = (decimal step).filter _
    rw [loosely_eq_decimal (h.step step rfl)]

/-- For a part with decimal numbers it does not matter how they are read. -/
theorem Plain.fits_iff (h : part.Plain) : part.Fits field loosely ↔ part.Fits field decimal := by
  rw [Fits, Fits, RangeSyntax.bounds_of_plain h.range, stepValue_of_plain h]

theorem Plain.values_eq (h : part.Plain) :
    part.values field loosely = part.values field decimal := by
  rw [values, values, RangeSyntax.bounds_of_plain h.range, stepValue_of_plain h]

theorem Fits.plain (h : part.Fits field decimal) : part.Plain := by
  intro number hnumber
  rcases List.mem_append.mp hnumber with hrange | hstep
  · exact RangeSyntax.plain_of_bounds h.1 number hrange
  · have hvalue := h.2
    rw [stepValue, Option.mem_toList.mp hstep, Option.isSome_iff_exists] at hvalue
    obtain ⟨n, hn⟩ := hvalue
    rw [(Option.filter_eq_some_iff.mp hn).1]
    rfl

theorem Plain.chars_mem (h : part.Plain) {c : Char} (hc : c ∈ part.chars) :
    c = '*' ∨ c = '-' ∨ c = '/' ∨ isDigitChar c = true := by
  have hrange : c ∈ part.range.chars → c = '*' ∨ c = '-' ∨ c = '/' ∨ isDigitChar c = true :=
    fun hmem => (RangeSyntax.chars_of_plain h.range c hmem).imp_right (Or.imp_right .inr)
  rw [chars] at hc
  cases hstep : part.step with
  | none =>
    rw [hstep] at hc
    exact hrange hc
  | some step =>
    rw [hstep] at hc
    rcases List.mem_append.mp hc with hmem | hmem
    · exact hrange hmem
    · rcases List.mem_cons.mp hmem with rfl | hdigit
      · exact .inr (.inr (.inl rfl))
      · exact .inr (.inr (.inr ((digits_of_decimal (h.step step hstep)).2 c hdigit)))

/-- A part with decimal numbers is read back from its text. -/
theorem Plain.partSyntax_chars (h : part.Plain) : partSyntax part.chars = some part := by
  have hslash : '/' ∉ part.range.chars := by
    intro hmem
    rcases RangeSyntax.chars_of_plain h.range _ hmem with hc | hc | hc <;> cases hc
  obtain ⟨range, step⟩ := part
  cases step with
  | none =>
    rw [partSyntax, chars, List.splitOn_eq_singleton hslash]
    exact Option.map_eq_some_iff.mpr ⟨range, RangeSyntax.rangeSyntax_chars h.range, rfl⟩
  | some step =>
    have hstep := not_mem_of_decimal (h.step step rfl) (show isDigitChar '/' = false from rfl)
    rw [partSyntax, chars, List.splitOn_append_cons_self_of_not_mem hslash,
      List.splitOn_eq_singleton hstep]
    exact Option.map_eq_some_iff.mpr ⟨range, RangeSyntax.rangeSyntax_chars h.range, rfl⟩

end PartSyntax

/-! ### Whole fields of the grammar -/

theorem mem_intercalate {c separator : Char} {texts : List (List Char)}
    (h : c ∈ [separator].intercalate texts) : c = separator ∨ ∃ text ∈ texts, c ∈ text := by
  induction texts with
  | nil => cases h
  | cons text rest ih =>
    cases rest with
    | nil =>
      rw [List.intercalate_singleton] at h
      exact .inr ⟨text, List.mem_cons_self .., h⟩
    | cons other rest =>
      rw [List.intercalate_cons_cons] at h
      rcases List.mem_append.mp h with hmem | hmem
      · rcases List.mem_append.mp hmem with hmem | hmem
        · exact .inr ⟨text, List.mem_cons_self .., hmem⟩
        · exact .inl (List.mem_singleton.mp hmem)
      · exact (ih hmem).imp_right fun ⟨text', htext', hc⟩ =>
          ⟨text', List.mem_cons_of_mem _ htext', hc⟩

/-- A list with decimal numbers has no blanks, and it is split into its parts. -/
theorem fieldChars_of_plain {parts : List PartSyntax} (hne : parts ≠ [])
    (hplain : ∀ part ∈ parts, part.Plain) :
    trimChars (fieldChars parts) = fieldChars parts ∧
      ((fieldChars parts).splitOn ',').map partSyntax = parts.map some := by
  constructor
  · refine trimChars_eq_self fun c hc => ?_
    rcases mem_intercalate hc with rfl | ⟨text, htext, hmem⟩
    · rfl
    · obtain ⟨part, hpart, rfl⟩ := List.mem_map.mp htext
      rcases (hplain part hpart).chars_mem hmem with rfl | rfl | rfl | hdigit
      · rfl
      · rfl
      · rfl
      · exact not_blank_of_digit hdigit
  · rw [fieldChars, List.splitOn_intercalate, List.map_map]
    · exact List.map_congr_left fun part hpart => (hplain part hpart).partSyntax_chars
    · intro text htext hmem
      obtain ⟨part, hpart, rfl⟩ := List.mem_map.mp htext
      rcases (hplain part hpart).chars_mem hmem with hc | hc | hc | hc <;> cases hc
    · intro hnil
      exact hne (List.map_eq_nil_iff.mp hnil)

theorem fieldChars_of_split {parts : List PartSyntax}
    (h : (chars.splitOn ',').map partSyntax = parts.map some) : chars = fieldChars parts := by
  have htexts : ∀ (texts : List (List Char)) (parts : List PartSyntax),
      texts.map partSyntax = parts.map some → texts = parts.map PartSyntax.chars := by
    intro texts
    induction texts with
    | nil =>
      intro parts h
      rw [List.map_eq_nil_iff.mp h.symm]
      rfl
    | cons text rest ih =>
      intro parts h
      cases parts with
      | nil => cases h
      | cons part parts =>
        obtain ⟨htext, hrest⟩ := List.cons.inj h
        rw [List.map_cons, partSyntax_eq_some htext, ih parts hrest]
  rw [fieldChars, ← htexts _ _ h, List.intercalate_splitOn]

theorem denotes_iff {values : Set ℤ} : Denotes field chars values ↔
    ∃ parts : List PartSyntax, trimChars chars = chars ∧
      (chars.splitOn ',').map partSyntax = parts.map some ∧ (∀ part ∈ parts, part.Plain) ∧
      (∀ part ∈ parts, part.Fits field loosely) ∧
      values = {v | ∃ part ∈ parts, v ∈ part.values field loosely} := by
  have hset : ∀ parts : List PartSyntax, (∀ part ∈ parts, part.Plain) →
      {v | ∃ part ∈ parts, v ∈ part.values field decimal} =
        {v | ∃ part ∈ parts, v ∈ part.values field loosely} := by
    intro parts hplain
    ext v
    refine exists_congr fun part => and_congr_right fun hpart => ?_
    rw [(hplain part hpart).values_eq]
  constructor
  · rintro ⟨parts, hne, rfl, hfits, rfl⟩
    have hplain : ∀ part ∈ parts, part.Plain := fun part hpart => (hfits part hpart).plain
    obtain ⟨htrim, hsplit⟩ := fieldChars_of_plain hne hplain
    exact ⟨parts, htrim, hsplit, hplain,
      fun part hpart => (hplain part hpart).fits_iff.mpr (hfits part hpart), hset parts hplain⟩
  · rintro ⟨parts, htrim, hsplit, hplain, hfits, rfl⟩
    refine ⟨parts, ?_, fieldChars_of_split hsplit,
      fun part hpart => (hplain part hpart).fits_iff.mp (hfits part hpart), (hset parts hplain).symm⟩
    rintro rfl
    exact List.splitOn_ne_nil _ _ (List.map_eq_nil_iff.mp hsplit)

theorem parts_unique {texts : List (List Char)} {parts parts' : List PartSyntax}
    (h : texts.map partSyntax = parts.map some) (h' : texts.map partSyntax = parts'.map some) :
    parts = parts' :=
  List.map_injective_iff.mpr (Option.some_injective _) (h.symm.trans h')

/-- The parser meets the grammar exactly where a list of the grammar over texts that denote
integers is plain if it is readable, and readable if it is plain. -/
theorem meets_iff (field : FieldRange) (chars : List Char) :
    field.Meets chars ↔ field.PlainIfReadable chars := by
  constructor
  · intro hmeets parts hsplit hfits
    constructor
    · rintro ⟨htrim, hplain⟩
      rw [htrim] at hsplit
      obtain ⟨parsed, hparsed, -⟩ := hmeets.complete _
        (denotes_iff.mpr ⟨parts, htrim, hsplit, hplain, hfits, rfl⟩)
      obtain ⟨parts', hsplit', hruns, -⟩ := parse_eq_ok hparsed
      rw [htrim] at hsplit'
      obtain rfl := parts_unique hsplit hsplit'
      intro part hpart
      obtain ⟨first, last, step, hrun⟩ := hruns part hpart
      exact ⟨hrun.not_fromSunday, hrun.stepValue.1⟩
    · intro hreadable
      obtain ⟨parsed, hparsed⟩ := parse_of_runs hsplit fun part hpart =>
        (hfits part hpart).runs (hreadable part hpart).1 (hreadable part hpart).2
      obtain ⟨values, hvalues⟩ := hmeets.sound parsed hparsed
      obtain ⟨parts', htrim, hsplit', hplain, -, -⟩ := denotes_iff.mp hvalues
      rw [htrim] at hsplit
      obtain rfl := parts_unique hsplit hsplit'
      exact ⟨htrim, hplain⟩
  · intro hcondition
    constructor
    · intro values hvalues
      obtain ⟨parts, htrim, hsplit, hplain, hfits, rfl⟩ := denotes_iff.mp hvalues
      rw [← htrim] at hsplit
      have hreadable := (hcondition parts hsplit hfits).mp ⟨htrim, hplain⟩
      obtain ⟨parsed, hparsed⟩ := parse_of_runs hsplit fun part hpart =>
        (hfits part hpart).runs (hreadable part hpart).1 (hreadable part hpart).2
      obtain ⟨parts', hsplit', -, hmem⟩ := parse_eq_ok hparsed
      obtain rfl := parts_unique hsplit hsplit'
      exact ⟨parsed, hparsed, Set.ext hmem⟩
    · intro parsed hparsed
      obtain ⟨parts, hsplit, hruns, -⟩ := parse_eq_ok hparsed
      have hfits : ∀ part ∈ parts, part.Fits field loosely := by
        intro part hpart
        obtain ⟨first, last, step, hrun⟩ := hruns part hpart
        exact hrun.meaning.1
      obtain ⟨htrim, hplain⟩ := (hcondition parts hsplit hfits).mpr fun part hpart => by
        obtain ⟨first, last, step, hrun⟩ := hruns part hpart
        exact ⟨hrun.not_fromSunday, hrun.stepValue.1⟩
      rw [htrim] at hsplit
      exact ⟨_, denotes_iff.mpr ⟨parts, htrim, hsplit, hplain, hfits, rfl⟩⟩

/-- The hours of a day. -/
def hourField : FieldRange where
  min := 0
  max := 23
  sunday7 := false
  nonneg := by decide
  ordered := by decide
  bounded := by decide
  sunday := nofun

/-- A hexadecimal number is accepted. -/
theorem hexadecimal_accepted : ¬∀ field chars, FieldRange.Meets field chars := by
  intro h
  have haccepted : hourField.parse "0x10".toList = .ok [16] := by decide +kernel
  obtain ⟨values, hvalues⟩ := (h hourField "0x10".toList).sound _ haccepted
  obtain ⟨parts, -, hsplit, hplain, -, -⟩ := denotes_iff.mp hvalues
  have hparts : [⟨.single "0x10".toList, none⟩] = parts := parts_unique (by decide +kernel) hsplit
  have hnumber := hplain _ (hparts ▸ List.mem_cons_self ..) "0x10".toList (List.mem_cons_self ..)
  exact absurd hnumber (by decide +kernel)

end DshOrbit.Schedules
