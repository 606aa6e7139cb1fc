import Mathlib

/-!
# Programs over atomic operations

A program performs the operations of a signature one at a time, chooses its
next operation from the response, and ends with a value or an error.  Nothing
is said here about what an operation does: `exec` runs a program alone against
a responder, and `Meets` states a contract on the operations a program may
perform under every possible response.  The contract is what survives when
other programs run in between.
-/

namespace UssdKernel.Programs

/-- A program over the operations `Op`, whose responses have type `Res`. -/
inductive Prog (Op : Type) (Res : Op → Type) (Err A : Type) : Type
  | done (result : Except Err A)
  | perform (op : Op) (next : Res op → Prog Op Res Err A)

namespace Prog

variable {Op : Type} {Res : Op → Type} {Err A B : Type}

protected def bind : Prog Op Res Err A → (A → Prog Op Res Err B) →
    Prog Op Res Err B
  | done (.ok value), next => next value
  | done (.error error), _ => done (.error error)
  | perform op rest, next => perform op fun response => (rest response).bind next

instance : Monad (Prog Op Res Err) where
  pure value := done (.ok value)
  bind := Prog.bind

def raise (error : Err) : Prog Op Res Err A :=
  done (.error error)

/-- Perform one operation and return its response. -/
def call (op : Op) : Prog Op Res Err (Res op) :=
  perform op fun response => done (.ok response)

/-- Turn the result of a program into a value, so that the caller decides
what an error means. -/
def attempt : Prog Op Res Err A → Prog Op Res Err (Except Err A)
  | done result => done (.ok result)
  | perform op next => perform op fun response => (next response).attempt

/-- Forget the value, so that programs of different types can run side by
side. -/
def void : Prog Op Res Err A → Prog Op Res Err Unit
  | done (.ok _) => done (.ok ())
  | done (.error error) => done (.error error)
  | perform op next => perform op fun response => (next response).void

/-- The operation a program performs next, if it has not ended. -/
def operation : Prog Op Res Err A → Option Op
  | done _ => none
  | perform op _ => some op

/-- The result of a program that has ended. -/
def result : Prog Op Res Err A → Option (Except Err A)
  | done result => some result
  | perform _ _ => none

theorem eq_done_of_result {program : Prog Op Res Err A} {value : Except Err A}
    (hresult : program.result = some value) : program = done value := by
  cases program with
  | done other => rw [Option.some.inj hresult]
  | perform op next => cases hresult

@[simp]
theorem bind_done_ok (value : A) (next : A → Prog Op Res Err B) :
    (done (.ok value) >>= next) = next value := rfl

@[simp]
theorem bind_done_error (error : Err) (next : A → Prog Op Res Err B) :
    (done (.error error) >>= next) = done (.error error) := rfl

@[simp]
theorem bind_perform (op : Op) (rest : Res op → Prog Op Res Err A)
    (next : A → Prog Op Res Err B) :
    (perform op rest >>= next) =
      perform op fun response => rest response >>= next := rfl

/-! ## Running alone -/

variable {program : Prog Op Res Err A}

section Exec

variable {State : Type} (respond : (op : Op) → State → Res op × State)

/-- Run a program to its end. -/
def exec : Prog Op Res Err A → State → Except Err A × State
  | done result, state => (result, state)
  | perform op next, state =>
      exec (next (respond op state).1) (respond op state).2

@[simp]
theorem exec_done (result : Except Err A) (state : State) :
    exec respond (done result) state = (result, state) := rfl

@[simp]
theorem exec_perform (op : Op) (next : Res op → Prog Op Res Err A)
    (state : State) :
    exec respond (perform op next) state =
      exec respond (next (respond op state).1) (respond op state).2 := rfl

theorem exec_call_bind (op : Op) (next : Res op → Prog Op Res Err A)
    (state : State) :
    exec respond (call op >>= next) state =
      exec respond (next (respond op state).1) (respond op state).2 := rfl

theorem exec_bind (program : Prog Op Res Err A)
    (next : A → Prog Op Res Err B) (state : State) :
    exec respond (program >>= next) state =
      match exec respond program state with
      | (.ok value, after) => exec respond (next value) after
      | (.error error, after) => (.error error, after) := by
  induction program generalizing state with
  | done result => cases result <;> rfl
  | perform op rest ih =>
      rw [bind_perform, exec_perform, exec_perform]
      exact ih (respond op state).1 (respond op state).2

variable {next : A → Prog Op Res Err B} {before after : State}

variable {respond} in
theorem exec_bind_of_ok {value : A}
    (hexec : exec respond program before = (.ok value, after)) :
    exec respond (program >>= next) before = exec respond (next value) after := by
  rw [exec_bind, hexec]

variable {respond} in
theorem exec_bind_of_error {error : Err}
    (hexec : exec respond program before = (.error error, after)) :
    exec respond (program >>= next) before = (.error error, after) := by
  rw [exec_bind, hexec]

variable {respond} in
/-- Programs that leave the state, one after the other. -/
theorem exec_bind_state {state : State}
    (hprogram : (exec respond program state).2 = state)
    (hnext : ∀ value, (exec respond (next value) state).2 = state) :
    (exec respond (program >>= next) state).2 = state := by
  rw [exec_bind]
  cases hexec : exec respond program state with
  | mk result after =>
      rw [hexec] at hprogram
      cases result with
      | error error => exact hprogram
      | ok value =>
          dsimp only at hprogram ⊢
          rw [hprogram]
          exact hnext value

/-- Replacing the value of a program does not change the state it leaves. -/
theorem exec_bind_done_snd (program : Prog Op Res Err A) (result : Except Err B)
    (state : State) :
    (exec respond (program >>= fun _ => done result) state).2 =
      (exec respond program state).2 := by
  rw [exec_bind]
  cases exec respond program state with
  | mk result after => cases result <;> rfl

theorem exec_attempt (program : Prog Op Res Err A) (state : State) :
    exec respond program.attempt state =
      (.ok (exec respond program state).1, (exec respond program state).2) := by
  induction program generalizing state with
  | done result => rfl
  | perform op next ih => exact ih (respond op state).1 (respond op state).2

end Exec

/-! ## Contracts -/

/-- What a program may do, given the note it keeps of its own past
responses. -/
structure Contract (Op : Type) (Res : Op → Type) (Note : Type) where
  allowed : Note → Op → Prop
  observe : Note → (op : Op) → Res op → Note

/-- The contract always allows the operation and notes nothing of it. -/
def Contract.Ignores {Note : Type} (contract : Contract Op Res Note)
    (op : Op) : Prop :=
  ∀ note, contract.allowed note op ∧
    ∀ response, contract.observe note op response = note

section Meets

variable {Note : Type} (contract : Contract Op Res Note)

/-- Under every response, the program performs only allowed operations and
ends with the given postcondition. -/
def Meets (post : Note → Except Err A → Prop) :
    Note → Prog Op Res Err A → Prop
  | note, done result => post note result
  | note, perform op next =>
      contract.allowed note op ∧
        ∀ response, Meets post (contract.observe note op response)
          (next response)

@[simp]
theorem meets_perform (post : Note → Except Err A → Prop) (note : Note)
    (op : Op) (next : Res op → Prog Op Res Err A) :
    Meets contract post note (perform op next) ↔
      contract.allowed note op ∧
        ∀ response, Meets contract post (contract.observe note op response)
          (next response) := Iff.rfl

variable {contract}

variable {post : Note → Except Err A → Prop} {note : Note}
theorem Meets.mono {weaker : Note → Except Err A → Prop}
    (hpost : ∀ note result, post note result → weaker note result)
    (hmeets : Meets contract post note program) :
    Meets contract weaker note program := by
  induction program generalizing note with
  | done result => exact hpost note result hmeets
  | perform op next ih =>
      exact ⟨hmeets.1, fun response => ih response (hmeets.2 response)⟩

/-- Sequential composition: the first program must end in a state from which
the second one meets the contract. -/
theorem meets_bind {post : Note → Except Err B → Prop}
    {next : A → Prog Op Res Err B} :
    Meets contract post note (program >>= next) ↔
      Meets contract (fun later result =>
        match result with
        | .ok value => Meets contract post later (next value)
        | .error error => post later (.error error)) note program := by
  induction program generalizing note with
  | done result => cases result <;> rfl
  | perform op rest ih =>
      rw [bind_perform, meets_perform, meets_perform]
      exact and_congr_right fun _ => forall_congr' fun response => ih response

theorem meets_call_bind {op : Op} {next : Res op → Prog Op Res Err A} :
    Meets contract post note (call op >>= next) ↔
      contract.allowed note op ∧
        ∀ response, Meets contract post (contract.observe note op response)
          (next response) := Iff.rfl

theorem meets_perform_of_ignores {op : Op} {next : Res op → Prog Op Res Err A}
    (hignores : contract.Ignores op)
    (hnext : ∀ response, Meets contract post note (next response)) :
    Meets contract post note (perform op next) := by
  refine ⟨(hignores note).1, fun response => ?_⟩
  rw [(hignores note).2 response]
  exact hnext response

theorem meets_attempt {post : Note → Except Err (Except Err A) → Prop} :
    Meets contract post note program.attempt ↔
      Meets contract (fun later result => post later (.ok result)) note
        program := by
  induction program generalizing note with
  | done result => rfl
  | perform op next ih =>
      exact and_congr_right fun _ => forall_congr' fun response => ih response

theorem meets_void_iff {post : Note → Except Err Unit → Prop} :
    Meets contract post note program.void ↔
      Meets contract (fun later result => post later (result.map fun _ => ()))
        note program := by
  induction program generalizing note with
  | done result => cases result <;> rfl
  | perform op next ih =>
      exact and_congr_right fun _ => forall_congr' fun response => ih response

theorem meets_void (hmeets : Meets contract post note program) :
    Meets contract (fun _ _ => True) note program.void :=
  meets_void_iff.mpr (hmeets.mono fun _ _ _ => trivial)

end Meets

end Prog

end UssdKernel.Programs
