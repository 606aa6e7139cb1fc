import Mathlib

/-!
# Runs of a transition function

A run applies a transition function to one input after another.  A condition
on a step speaks of the state before it and of its input; `Throughout` says
that it holds at every step of a run.
-/

namespace UssdKernel.Runs

variable {State Input : Type*} {step : State → Input → State}

/-- The condition holds at every step of the run. -/
def Throughout (step : State → Input → State)
    (condition : State → Input → Prop) : List Input → State → Prop
  | [], _ => True
  | input :: inputs, state =>
      condition state input ∧
        Throughout step condition inputs (step state input)

instance decidableThroughout {condition : State → Input → Prop}
    [∀ state input, Decidable (condition state input)] :
    (inputs : List Input) → (state : State) →
      Decidable (Throughout step condition inputs state)
  | [], _ => isTrue trivial
  | input :: inputs, state =>
      have : Decidable (Throughout step condition inputs (step state input)) :=
        decidableThroughout inputs _
      inferInstanceAs (Decidable (condition state input ∧ _))

variable {condition : State → Input → Prop}

theorem throughout_of_forall (hcondition : ∀ state input, condition state input)
    (inputs : List Input) (state : State) :
    Throughout step condition inputs state := by
  induction inputs generalizing state with
  | nil => trivial
  | cons input inputs ih => exact ⟨hcondition state input, ih _⟩

variable {state : State}

theorem throughout_append {earlier later : List Input} :
    Throughout step condition (earlier ++ later) state ↔
      Throughout step condition earlier state ∧
        Throughout step condition later (earlier.foldl step state) := by
  induction earlier generalizing state with
  | nil => exact (and_iff_right trivial).symm
  | cons input earlier ih =>
      rw [List.cons_append, Throughout, Throughout, ih, and_assoc,
        List.foldl_cons]

variable {inputs : List Input} {invariant : State → Prop}

/-- An invariant that every step under the condition keeps holds after every
run under the condition. -/
theorem foldl_invariant
    (hstep : ∀ state input, invariant state → condition state input →
      invariant (step state input)) (hstate : invariant state)
    (hinputs : Throughout step condition inputs state) :
    invariant (inputs.foldl step state) := by
  induction inputs generalizing state with
  | nil => exact hstate
  | cons input inputs ih =>
      exact ih (hstep state input hstate hinputs.1) hinputs.2

/-- If a step reaches the property exactly from states that have it and meet
the condition, then so does a whole run. -/
theorem foldl_iff_throughout (property : State → Prop)
    (hstep : ∀ state input, property (step state input) ↔
      property state ∧ condition state input)
    (inputs : List Input) (state : State) :
    property (inputs.foldl step state) ↔
      property state ∧ Throughout step condition inputs state := by
  induction inputs generalizing state with
  | nil => exact (and_iff_left trivial).symm
  | cons input inputs ih =>
      rw [List.foldl_cons, ih, hstep, and_assoc]
      rfl

/-- A condition that splits into one on the input and a weaker condition on
the step. -/
theorem throughout_iff_forall_and {weaker : State → Input → Prop}
    {admitted : Input → Prop}
    (hsplit : ∀ state, ∀ input ∈ inputs,
      condition state input ↔ admitted input ∧ weaker state input)
    (state : State) :
    Throughout step condition inputs state ↔
      (∀ input ∈ inputs, admitted input) ∧
        Throughout step weaker inputs state := by
  induction inputs generalizing state with
  | nil => simp [Throughout]
  | cons input inputs ih =>
      have hrest := ih (fun state other hother =>
        hsplit state other (List.mem_cons_of_mem _ hother)) (step state input)
      rw [Throughout, Throughout, hrest, hsplit state input List.mem_cons_self,
        List.forall_mem_cons]
      tauto

/-- Two conditions that agree under an invariant and an assumption agree on a
run under the assumption, if steps under the first keep the invariant. -/
theorem throughout_congr {assumption first second : State → Input → Prop}
    (hagree : ∀ state input, invariant state → assumption state input →
      (first state input ↔ second state input))
    (hstep : ∀ state input, invariant state → first state input →
      invariant (step state input)) (hstate : invariant state)
    (hassumed : Throughout step assumption inputs state) :
    Throughout step first inputs state ↔
      Throughout step second inputs state := by
  induction inputs generalizing state with
  | nil => exact Iff.rfl
  | cons input inputs ih =>
      rw [Throughout, Throughout, ← hagree state input hstate hassumed.1]
      apply and_congr_right
      intro hfirst
      exact ih (hstep state input hstate hfirst) hassumed.2

end UssdKernel.Runs
