import Mathlib.Data.List.Basic
import Mathlib.Tactic.Common

/-!
# Passes of stages

A pass runs stages one after the other, each of which brings about a condition and changes nothing
where its condition holds. Where no stage disturbs the condition of an earlier one, the pass ends in
a state that it does not change.

## Main definitions

- `PassStage` — what a stage does, and the condition that it settles
- `PassStage.Sound`, `PassStage.Spares` — a stage for itself, and beside another one
- `runAll` — a pass

## Main results

- `settled_runAll` — after a pass the conditions of all stages hold
- `runAll_idempotent` — a second pass changes nothing
-/

namespace DshOrbit.Lib

universe u

structure PassStage (State : Type u) where
  run : State → State
  Settled : State → Prop

variable {State : Type u} {Inv : State → Prop}

/-- On the states of an invariant, the stage settles its condition and leaves what is settled. -/
structure PassStage.Sound (Inv : State → Prop) (p : PassStage State) : Prop where
  keeps : ∀ s, Inv s → Inv (p.run s)
  settles : ∀ s, Inv s → p.Settled (p.run s)
  fixes : ∀ s, Inv s → p.Settled s → p.run s = s

/-- The second stage does not disturb the condition of the first. -/
def PassStage.Spares (Inv : State → Prop) (p q : PassStage State) : Prop :=
  ∀ s, Inv s → p.Settled s → p.Settled (q.run s)

def runAll (stages : List (PassStage State)) (s : State) : State :=
  stages.foldl (fun s p => p.run s) s

theorem runAll_cons (p : PassStage State) (stages : List (PassStage State)) (s : State) :
    runAll (p :: stages) s = runAll stages (p.run s) := List.foldl_cons ..

theorem inv_runAll {stages : List (PassStage State)} (hsound : ∀ p ∈ stages, p.Sound Inv)
    {s : State} (h : Inv s) : Inv (runAll stages s) := by
  induction stages generalizing s with
  | nil => exact h
  | cons p rest ih =>
    rw [runAll_cons]
    exact ih (fun q hq => hsound q (List.mem_cons_of_mem p hq))
      ((hsound p List.mem_cons_self).keeps s h)

/-- A condition that every stage spares holds after them. -/
theorem settled_of_spares {stages : List (PassStage State)} (hsound : ∀ p ∈ stages, p.Sound Inv)
    {p : PassStage State} (hspares : ∀ q ∈ stages, p.Spares Inv q) {s : State} (h : Inv s)
    (hsettled : p.Settled s) : p.Settled (runAll stages s) := by
  induction stages generalizing s with
  | nil => exact hsettled
  | cons q rest ih =>
    rw [runAll_cons]
    exact ih (fun r hr => hsound r (List.mem_cons_of_mem q hr))
      (fun r hr => hspares r (List.mem_cons_of_mem q hr))
      ((hsound q List.mem_cons_self).keeps s h) (hspares q List.mem_cons_self s h hsettled)

theorem settled_runAll {stages : List (PassStage State)} (hsound : ∀ p ∈ stages, p.Sound Inv)
    (hspares : stages.Pairwise (PassStage.Spares Inv)) {s : State} (h : Inv s) :
    ∀ p ∈ stages, p.Settled (runAll stages s) := by
  induction stages generalizing s with
  | nil => exact nofun
  | cons q rest ih =>
    obtain ⟨hfirst, hrest⟩ := List.pairwise_cons.mp hspares
    have hsoundRest : ∀ p ∈ rest, p.Sound Inv := fun p hp => hsound p (List.mem_cons_of_mem q hp)
    have hq := hsound q List.mem_cons_self
    intro p hp
    rw [runAll_cons]
    rcases List.mem_cons.mp hp with rfl | hp
    · exact settled_of_spares hsoundRest hfirst (hq.keeps s h) (hq.settles s h)
    · exact ih hsoundRest hrest (hq.keeps s h) p hp

/-- A pass over a state in which everything is settled. -/
theorem runAll_of_settled {stages : List (PassStage State)} (hsound : ∀ p ∈ stages, p.Sound Inv)
    {s : State} (h : Inv s) (hsettled : ∀ p ∈ stages, p.Settled s) : runAll stages s = s := by
  induction stages with
  | nil => rfl
  | cons p rest ih =>
    rw [runAll_cons, (hsound p List.mem_cons_self).fixes s h (hsettled p List.mem_cons_self)]
    exact ih (fun q hq => hsound q (List.mem_cons_of_mem p hq))
      fun q hq => hsettled q (List.mem_cons_of_mem p hq)

theorem runAll_idempotent {stages : List (PassStage State)} (hsound : ∀ p ∈ stages, p.Sound Inv)
    (hspares : stages.Pairwise (PassStage.Spares Inv)) {s : State} (h : Inv s) :
    runAll stages (runAll stages s) = runAll stages s :=
  runAll_of_settled hsound (inv_runAll hsound h) (settled_runAll hsound hspares h)

end DshOrbit.Lib
