import Mathlib.Data.List.Basic
import Mathlib.Tactic.TypeStar

/-!
# Runs of a deterministic step function

A system takes one input after the other; what is known about single steps is
carried to whole runs by induction on the inputs.

## Main definitions

- `runFrom` — the state after a list of inputs
- `EachStep` — a condition on every input and the state it is met in
- `countSteps` — the number of inputs that fit a condition in the state they are met in

## Main results

- `runFrom_invariant` — a property that every allowed step keeps
- `EachStep.of_split` — the condition at one position of a run
-/

namespace DshOrbit.Lib

variable {State Input : Type*} (step : State → Input → State)

/-- The state after the inputs, one after the other. -/
def runFrom (s : State) (inputs : List Input) : State := inputs.foldl step s

@[simp]
theorem runFrom_nil (s : State) : runFrom step s [] = s := rfl

@[simp]
theorem runFrom_cons (s : State) (i : Input) (rest : List Input) :
    runFrom step s (i :: rest) = runFrom step (step s i) rest := rfl

theorem runFrom_append (s : State) (xs ys : List Input) :
    runFrom step s (xs ++ ys) = runFrom step (runFrom step s xs) ys := by
  simp only [runFrom, List.foldl_append]

/-- Every input is met in a state that fits the condition. -/
def EachStep (P : State → Input → Prop) : State → List Input → Prop
  | _, [] => True
  | s, i :: rest => P s i ∧ EachStep P (step s i) rest

variable {step}

instance decidableEachStep {P : State → Input → Prop} [∀ s i, Decidable (P s i)] :
    (s : State) → (inputs : List Input) → Decidable (EachStep step P s inputs)
  | _, [] => inferInstanceAs (Decidable True)
  | s, i :: rest =>
    have : Decidable (EachStep step P (step s i) rest) := decidableEachStep (step s i) rest
    inferInstanceAs (Decidable (P s i ∧ EachStep step P (step s i) rest))

theorem eachStep_append {P : State → Input → Prop} {s : State} {xs ys : List Input} :
    EachStep step P s (xs ++ ys) ↔
      EachStep step P s xs ∧ EachStep step P (runFrom step s xs) ys := by
  induction xs generalizing s with
  | nil => simp [EachStep]
  | cons i rest ih => simp [EachStep, ih, and_assoc]

/-- The condition holds where a run is cut, and of what follows. -/
theorem EachStep.of_split {P : State → Input → Prop} {s : State} {xs ys : List Input} {i : Input}
    (h : EachStep step P s (xs ++ i :: ys)) :
    P (runFrom step s xs) i ∧ EachStep step P (step (runFrom step s xs) i) ys :=
  (eachStep_append.mp h).2

theorem eachStep_true {s : State} (inputs : List Input) :
    EachStep step (fun _ _ => True) s inputs := by
  induction inputs generalizing s with
  | nil => trivial
  | cons i rest ih => exact ⟨trivial, ih⟩

theorem EachStep.and {P Q : State → Input → Prop} {s : State} {inputs : List Input}
    (hP : EachStep step P s inputs) (hQ : EachStep step Q s inputs) :
    EachStep step (fun s i => P s i ∧ Q s i) s inputs := by
  induction inputs generalizing s with
  | nil => trivial
  | cons i rest ih => exact ⟨⟨hP.1, hQ.1⟩, ih hP.2 hQ.2⟩

/-- What every step under the condition keeps holds after the run. -/
theorem runFrom_invariant {I : State → Prop} {P : State → Input → Prop} {s : State}
    {inputs : List Input} (hstep : ∀ s i, I s → P s i → I (step s i)) (hs : I s)
    (hP : EachStep step P s inputs) : I (runFrom step s inputs) := by
  induction inputs generalizing s with
  | nil => exact hs
  | cons i rest ih => exact ih (hstep s i hs hP.1) hP.2

/-- What an invariant says of every step that fits the condition. -/
theorem EachStep.of_invariant {I : State → Prop} {P Q : State → Input → Prop} {s : State}
    {inputs : List Input} (hstep : ∀ s i, I s → P s i → I (step s i))
    (hQ : ∀ s i, I s → P s i → Q s i) (hs : I s) (hP : EachStep step P s inputs) :
    EachStep step Q s inputs := by
  induction inputs generalizing s with
  | nil => trivial
  | cons i rest ih => exact ⟨hQ s i hs hP.1, ih (hstep s i hs hP.1) hP.2⟩

theorem EachStep.imp {P Q : State → Input → Prop} {s : State} {inputs : List Input}
    (h : ∀ s i, P s i → Q s i) (hP : EachStep step P s inputs) : EachStep step Q s inputs := by
  induction inputs generalizing s with
  | nil => trivial
  | cons i rest ih => exact ⟨h s i hP.1, ih hP.2⟩

theorem EachStep.append_singleton {P : State → Input → Prop} {s : State} {inputs : List Input}
    {i : Input} (h : EachStep step P s inputs) (hi : P (runFrom step s inputs) i) :
    EachStep step P s (inputs ++ [i]) :=
  eachStep_append.mpr ⟨h, hi, trivial⟩

/-! ### Counting -/

variable (step)

/-- How many inputs fit the condition. -/
def countSteps (p : State → Input → Bool) : State → List Input → ℕ
  | _, [] => 0
  | s, i :: rest => (if p s i then 1 else 0) + countSteps p (step s i) rest

variable {step}

theorem countSteps_append {p : State → Input → Bool} {s : State} {xs ys : List Input} :
    countSteps step p s (xs ++ ys) =
      countSteps step p s xs + countSteps step p (runFrom step s xs) ys := by
  induction xs generalizing s with
  | nil => simp [countSteps]
  | cons i rest ih => rw [List.cons_append, countSteps, ih, countSteps, runFrom_cons, Nat.add_assoc]

theorem countSteps_le_append {p : State → Input → Bool} {s : State} {xs ys : List Input} :
    countSteps step p s xs ≤ countSteps step p s (xs ++ ys) := by
  rw [countSteps_append]
  exact Nat.le_add_right ..

theorem countSteps_append_singleton {p : State → Input → Bool} {s : State} {xs : List Input}
    {i : Input} (hi : p (runFrom step s xs) i = true) :
    countSteps step p s (xs ++ [i]) = countSteps step p s xs + 1 := by
  rw [countSteps_append, countSteps, if_pos hi, countSteps]

end DshOrbit.Lib
