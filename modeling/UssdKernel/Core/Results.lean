import Mathlib

/-!
# Sequences of steps that can fail

A sequence of steps succeeds exactly if each of its steps does.
-/

namespace UssdKernel.Results

variable {Error : Type*} {A B : Type} {value : B}

/-- A step that fails with the error unless the condition holds. -/
def require (condition : Prop) [Decidable condition] (error : Error) :
    Except Error Unit :=
  if condition then .ok () else .error error

theorem bind_eq_ok {first : Except Error A} {next : A → Except Error B} :
    first >>= next = .ok value ↔
      ∃ middle, first = .ok middle ∧ next middle = .ok value := by
  cases first with
  | error error =>
      constructor
      · intro hnext
        cases hnext
      · rintro ⟨_, hfirst, _⟩
        cases hfirst
  | ok middle =>
      constructor
      · intro hnext
        exact ⟨middle, rfl, hnext⟩
      · rintro ⟨_, hfirst, hnext⟩
        cases hfirst
        exact hnext

theorem require_bind_eq_ok {condition : Prop} [Decidable condition]
    {error : Error} {next : Unit → Except Error B} :
    require condition error >>= next = .ok value ↔
      condition ∧ next () = .ok value := by
  by_cases hcondition : condition
  · rw [require, if_pos hcondition, and_iff_right hcondition]
    rfl
  · rw [require, if_neg hcondition]
    constructor
    · intro hnext
      cases hnext
    · intro hboth
      exact absurd hboth.1 hcondition

theorem exists_ok_of_toOption {answer : Except Error A} {read : A → B}
    (hvalue : answer.toOption.map read = some value) :
    ∃ found, answer = .ok found ∧ read found = value := by
  cases answer with
  | error error => cases hvalue
  | ok found => exact ⟨found, rfl, Option.some.inj hvalue⟩

end UssdKernel.Results
