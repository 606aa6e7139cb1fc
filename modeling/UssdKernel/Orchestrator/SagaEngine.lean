import UssdKernel.Core.Data
import UssdKernel.Core.Interleaving

/-!
# The saga engine

`executeSaga`, `compensate` and `CancelSaga` of the orchestrator as programs
over one saga record.  The in-memory repository stores the pointer it is
given, so the engine and every caller of `CancelSaga` write to the same record;
each assignment to a field, each repository call and each handler call is one
operation.  `CompensationAction` and the number of steps are never assigned and
are read from the saga the engine was started with.
-/

namespace UssdKernel.Orchestrator

open UssdKernel.Programs

/-- Nanoseconds since the Unix epoch. -/
abbrev Time := ℤ

inductive SagaStatus
  | pending
  | running
  | compensating
  | completed
  | failed
  | cancelled
  deriving DecidableEq

inductive StepStatus
  | pending
  | running
  | completed
  | failed
  | compensated
  deriving DecidableEq

/-- A step; `Data` is the type of the maps that handlers exchange. -/
structure SagaStep (Data : Type) where
  id : Uuid
  sagaId : Uuid
  stepNumber : ℕ
  service : String
  action : String
  status : StepStatus
  compensationAction : String
  input : Option Data
  output : Option Data
  error : String

structure Saga (Data : Type) where
  id : Uuid
  tenantId : Uuid
  status : SagaStatus
  currentStep : ℕ
  totalSteps : ℕ
  steps : List (SagaStep Data)
  createdAt : Time
  completedAt : Option Time

/-- The saga record, the state of its context, and whether its cancel function
is in the `running` map. -/
structure Shared (Data : Type) where
  saga : Saga Data
  cancelled : Bool
  running : Bool

/-! ## Operations -/

inductive Op (Data : Type)
  | ctxDone
  | assignStatus (status : SagaStatus)
  | assignCompletedAt
  | assignCurrentStep (number : ℕ)
  | assignStepStatus (index : ℕ) (status : StepStatus)
  | assignStepError (index : ℕ) (message : String)
  | assignStepOutput (index : ℕ) (output : Data)
  | saveSaga
  | getSaga
  | execute (index : ℕ)
  | compensate (index : ℕ)
  | lookupRunning
  | deleteRunning
  | cancel

abbrev Op.Res {Data : Type} : Op Data → Type
  | ctxDone | lookupRunning => Bool
  | execute _ => Except String Data
  | compensate _ | saveSaga | getSaga => Except String Unit
  | assignStatus _ | assignCompletedAt | assignCurrentStep _
  | assignStepStatus _ _ | assignStepError _ _ | assignStepOutput _ _
  | deleteRunning | cancel => Unit

/-- What handlers, repository and clock answer to one operation; a handler is
given a copy of the step. -/
structure Choice (Data : Type) where
  executed : SagaStep Data → Except String Data
  compensated : SagaStep Data → Except String Unit
  saved : Except String Unit
  found : Except String Unit
  now : Time

/-- A handler call on the step with this index; the engine's indices are in
range. -/
def Saga.callOn {Data A : Type} (saga : Saga Data) (index : ℕ)
    (handler : SagaStep Data → Except String A) : Except String A :=
  match saga.steps[index]? with
  | none => .error "index out of range"
  | some step => handler step

/-- Assign to one field of one step. -/
def Saga.modifyStep {Data : Type} (saga : Saga Data) (index : ℕ)
    (assign : SagaStep Data → SagaStep Data) : Saga Data :=
  { saga with steps := saga.steps.modify index assign }

def Op.respond {Data : Type} (choice : Choice Data) :
    (op : Op Data) → Shared Data → op.Res × Shared Data
  | ctxDone, shared => (shared.cancelled, shared)
  | assignStatus status, shared => ((), { shared with saga.status := status })
  | assignCompletedAt, shared =>
      ((), { shared with saga.completedAt := some choice.now })
  | assignCurrentStep number, shared =>
      ((), { shared with saga.currentStep := number })
  | assignStepStatus index status, shared =>
      ((), { shared with
        saga := shared.saga.modifyStep index fun step =>
          { step with status := status } })
  | assignStepError index message, shared =>
      ((), { shared with
        saga := shared.saga.modifyStep index fun step =>
          { step with error := message } })
  | assignStepOutput index output, shared =>
      ((), { shared with
        saga := shared.saga.modifyStep index fun step =>
          { step with output := some output } })
  | saveSaga, shared => (choice.saved, shared)
  | getSaga, shared => (choice.found, shared)
  | execute index, shared => (shared.saga.callOn index choice.executed, shared)
  | compensate index, shared =>
      (shared.saga.callOn index choice.compensated, shared)
  | lookupRunning, shared => (shared.running, shared)
  | deleteRunning, shared => ((), { shared with running := false })
  | cancel, shared => ((), { shared with cancelled := true })

abbrev Task (Data A : Type) := Prog (Op Data) Op.Res String A

section Tasks

variable {Data : Type}

/-- An operation whose answer is dropped. -/
def act (op : Op Data) : Task Data Unit :=
  .perform op fun _ => .done (.ok ())

def ctxDone : Task Data Bool :=
  Prog.call Op.ctxDone

/-- `handler.Execute` on the step as it is stored. -/
def execute (index : ℕ) : Task Data (Except String Data) :=
  Prog.call (Op.execute index)

/-- The last assignments of every exit of the engine. -/
def finish (status : SagaStatus) : Task Data Unit := do
  act (.assignStatus status)
  act .assignCompletedAt
  act .saveSaga

/-! ## `compensate` -/

/-- The loop from step `count - 1` down to step 0.  The assignment of
`compensated` goes to a copy of the step and is lost, and an error of the
handler is only logged. -/
def compensateLoop (steps : List (SagaStep Data)) : ℕ → Task Data Unit
  | 0 => pure ()
  | index + 1 => do
      if (steps[index]?.map SagaStep.compensationAction).getD "" = "" then
        compensateLoop steps index
      else
        act (.compensate index)
        act .saveSaga
        compensateLoop steps index

def compensate (steps : List (SagaStep Data)) (failedStep : ℕ) :
    Task Data Unit := do
  act (.assignStatus .compensating)
  act .saveSaga
  compensateLoop steps (failedStep + 1)
  finish .failed

/-! ## `executeSaga` -/

/-- The loop over the remaining steps, the first of which has this index. -/
def executeLoop (steps : List (SagaStep Data)) :
    List (SagaStep Data) → ℕ → Task Data Unit
  | [], _ => finish .completed
  | _ :: remaining, index => do
      if ← ctxDone then
        finish .cancelled
      else
        act (.assignCurrentStep (index + 1))
        act (.assignStepStatus index .running)
        act .saveSaga
        match ← execute index with
        | .error message =>
            act (.assignStepStatus index .failed)
            act (.assignStepError index message)
            act .saveSaga
            compensate steps index
        | .ok output =>
            act (.assignStepStatus index .completed)
            act (.assignStepOutput index output)
            act .saveSaga
            executeLoop steps remaining (index + 1)

def executeSaga (saga : Saga Data) : Task Data Unit := do
  executeLoop saga.steps saga.steps 0
  act .deleteRunning

/-! ## `CancelSaga` and `StartSaga` -/

/-- The rest of `CancelSaga`, after the call of the cancel function. -/
def markCancelled : Task Data Unit :=
  .perform .getSaga fun
    | .error error => .done (.error error)
    | .ok _ => do
        act (.assignStatus .cancelled)
        act .assignCompletedAt
        .perform .saveSaga fun result => .done result

def cancelSaga : Task Data Unit := do
  let ok ← Prog.call Op.lookupRunning
  if ok then
    act .cancel
  markCancelled

/-- What `StartSaga` leaves when it launches the engine. -/
def started (saga : Saga Data) : Shared Data where
  saga := { saga with status := .running, currentStep := 0 }
  cancelled := false
  running := true

end Tasks

end UssdKernel.Orchestrator
