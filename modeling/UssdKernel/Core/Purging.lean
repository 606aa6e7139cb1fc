import Mathlib

/-!
# Purged histories

Noninterference in the form of a purge: the outputs of the observed inputs of
a history are those of the history from which all but the kept inputs have
been removed.  Two histories with the same kept inputs are then observed
alike.
-/

namespace UssdKernel.Purging

variable {State Input Output : Type*} (step : State → Input → State)

/-- The outputs of the observed inputs, in order. -/
def outputs (out : State → Input → Output) (observed : Input → Bool) :
    List Input → State → List Output
  | [], _ => []
  | input :: inputs, state =>
      if observed input then
        out state input :: outputs out observed inputs (step state input)
      else outputs out observed inputs (step state input)

/-- The condition holds at every step, given the state before it, its input
and the inputs still to come. -/
def Along (condition : State → Input → List Input → Prop) :
    List Input → State → Prop
  | [], _ => True
  | input :: inputs, state =>
      condition state input inputs ∧ Along condition inputs (step state input)

instance decidableAlong {condition : State → Input → List Input → Prop}
    [∀ state input inputs, Decidable (condition state input inputs)] :
    (inputs : List Input) → (state : State) →
      Decidable (Along step condition inputs state)
  | [], _ => isTrue trivial
  | input :: inputs, state =>
      have : Decidable (Along step condition inputs (step state input)) :=
        decidableAlong inputs _
      inferInstanceAs (Decidable (condition state input inputs ∧ _))

variable {step} {out : State → Input → Output} {observed kept : Input → Bool}
  {condition : State → Input → List Input → Prop}
  {agree : List Input → State → State → Prop}

variable {inputs : List Input} {state : State} {first second : State}

theorem Along.and_forall {admitted : Input → Prop}
    (halong : Along step condition inputs state)
    (hadmitted : ∀ input ∈ inputs, admitted input) :
    Along step (fun state input inputs =>
      admitted input ∧ condition state input inputs) inputs state := by
  induction inputs generalizing state with
  | nil => trivial
  | cons input inputs ih =>
      obtain ⟨hinput, hinputs⟩ := List.forall_mem_cons.mp hadmitted
      exact ⟨⟨hinput, halong.1⟩, ih halong.2 hinputs⟩

theorem Along.and {other : State → Input → List Input → Prop}
    (hcondition : Along step condition inputs state)
    (hother : Along step other inputs state) :
    Along step (fun state input inputs =>
      condition state input inputs ∧ other state input inputs) inputs
        state := by
  induction inputs generalizing state with
  | nil => trivial
  | cons input inputs ih =>
      exact ⟨⟨hcondition.1, hother.1⟩, ih hcondition.2 hother.2⟩

/-- The steps that are removed keep the agreement of the two states under the
condition, and the steps that are kept keep it and are observed alike. -/
structure Unwinding (step : State → Input → State)
    (out : State → Input → Output) (observed kept : Input → Bool)
    (condition : State → Input → List Input → Prop)
    (agree : List Input → State → State → Prop) : Prop where
  observed_kept : ∀ input, observed input = true → kept input = true
  removed : ∀ {input inputs first second}, kept input = false →
    condition first input inputs → agree (input :: inputs) first second →
      agree inputs (step first input) second
  kept : ∀ {input inputs first second}, kept input = true →
    condition first input inputs → agree (input :: inputs) first second →
      (observed input = true → out first input = out second input) ∧
        agree inputs (step first input) (step second input)

theorem Unwinding.outputs_filter
    (hunwinding : Unwinding step out observed kept condition agree)
    (hinputs : Along step condition inputs first)
    (hagree : agree inputs first second) :
    outputs step out observed inputs first =
      outputs step out observed (inputs.filter kept) second := by
  induction inputs generalizing first second with
  | nil => rfl
  | cons input inputs ih =>
      cases hkept : kept input with
      | false =>
          have hunobserved : observed input = false := by
            by_contra hobserved
            have := hunwinding.observed_kept input
              (Bool.not_eq_false _ ▸ hobserved)
            rw [hkept] at this
            cases this
          rw [outputs, hunobserved, List.filter_cons_of_neg (by simp [hkept])]
          exact ih hinputs.2 (hunwinding.removed hkept hinputs.1 hagree)
      | true =>
          obtain ⟨hout, hnext⟩ := hunwinding.kept hkept hinputs.1 hagree
          have hrest := ih hinputs.2 hnext
          rw [List.filter_cons_of_pos hkept, outputs, outputs, hrest]
          cases hobserved : observed input with
          | false => rfl
          | true => rw [hout hobserved]

/-- Histories that differ only in removed inputs are observed alike. -/
theorem Unwinding.outputs_eq
    (hunwinding : Unwinding step out observed kept condition agree)
    {first second : List Input}
    (hfilter : first.filter kept = second.filter kept)
    (hfirst : Along step condition first state)
    (hsecond : Along step condition second state)
    (hagree : ∀ inputs, agree inputs state state) :
    outputs step out observed first state =
      outputs step out observed second state := by
  rw [hunwinding.outputs_filter hfirst (hagree first),
    hunwinding.outputs_filter hsecond (hagree second), hfilter]

/-- Under the agreement of the two states an observed step has the same output
exactly if the condition holds, and as long as it does the agreement is kept. -/
structure ExactUnwinding (step : State → Input → State)
    (out : State → Input → Output) (observed kept : Input → Bool)
    (condition : State → Input → List Input → Prop)
    (agree : State → State → Prop) : Prop where
  observed_kept : ∀ input, observed input = true → kept input = true
  unobserved : ∀ {state input inputs}, observed input = false →
    condition state input inputs
  removed : ∀ {input first second}, kept input = false →
    agree first second → agree (step first input) second
  exact : ∀ {input inputs first second}, observed input = true →
    agree first second →
      (out first input = out second input ↔ condition first input inputs)
  kept : ∀ {input inputs first second}, kept input = true →
    condition first input inputs → agree first second →
      agree (step first input) (step second input)

/-- The outputs are those of the purged history exactly if the condition holds
at every step. -/
theorem ExactUnwinding.outputs_filter_iff {agree : State → State → Prop}
    (hunwinding : ExactUnwinding step out observed kept condition agree)
    (hagree : agree first second) :
    outputs step out observed inputs first =
        outputs step out observed (inputs.filter kept) second ↔
      Along step condition inputs first := by
  induction inputs generalizing first second with
  | nil => exact iff_of_true rfl trivial
  | cons input inputs ih =>
      cases hobserved : observed input with
      | false =>
          rw [Along, and_iff_right (hunwinding.unobserved hobserved), outputs,
            hobserved]
          cases hkept : kept input with
          | false =>
              rw [List.filter_cons_of_neg (by simp [hkept])]
              exact ih (hunwinding.removed hkept hagree)
          | true =>
              have hcondition : condition first input inputs :=
                hunwinding.unobserved hobserved
              rw [List.filter_cons_of_pos hkept, outputs, hobserved]
              exact ih (hunwinding.kept hkept hcondition hagree)
      | true =>
          have hkept := hunwinding.observed_kept input hobserved
          rw [Along, List.filter_cons_of_pos hkept, outputs, outputs, hobserved,
            if_pos rfl, if_pos rfl, List.cons.injEq,
            hunwinding.exact hobserved hagree]
          apply and_congr_right
          intro hcondition
          exact ih (hunwinding.kept hkept hcondition hagree)

end UssdKernel.Purging
