import UssdKernel.Orchestrator.SagaOutcomes
import UssdKernel.Orchestrator.StepHandler

/-!
# The payments of a failed saga

The saga engine runs its steps with `ServiceStepHandler` against the payment
engine, while `CancelSaga` is called and the provider sends callbacks at any
moments.  Every refund that `compensate` asks for is refused and the error is
only logged, so a failed saga leaves its payments open to the callbacks.
-/

namespace UssdKernel.Orchestrator

open UssdKernel.Programs UssdKernel.Interleaving
open PaymentEngine (World DecimalText CallbackEnv ProcessCallbackRequest
  Confirms processCallback)

/-! ## The services together -/

/-- The saga and the payment engine.  `initiated` holds the ids for the payments
of the `InitiatePayment` steps that were executed, with any result; a panic ends
the process of the saga engine. -/
structure Deployment where
  shared : Shared StepMap
  world : World
  initiated : List Uuid
  crashed : Bool

/-- What surrounds one operation of the saga engine. -/
structure SagaChoice where
  env : HandlerEnv
  saved : Except String Unit
  found : Except String Unit
  now : Time

inductive Turn (ι : Type)
  | saga (thread : Option ι) (choice : SagaChoice)
  | callback (env : CallbackEnv) (request : ProcessCallbackRequest)

abbrev SagaSystem (ι : Type) :=
  Pool (Option ι) (Op StepMap) Op.Res String Unit Deployment Note

/-- What the engine sees of a handler call; after a panic nothing reads it. -/
def handlerResult : Except StepFailure StepMap → Except String StepMap
  | .ok output => .ok output
  | .error (.error message) => .error message
  | .error .panic => .error ""

/-- No payment of the saga is Completed. -/
def Deployment.NoneCompleted (state : Deployment) : Prop :=
  ∀ paymentId ∈ state.initiated,
    state.world.statusOf paymentId ≠ some .completed

section Runs

variable [DecimalText] (parseStr : String → Option Uuid)
  (verify : List UInt8 → String → Bool)

def SagaChoice.answers (choice : SagaChoice) (world : World) :
    Choice StepMap where
  executed step := handlerResult (executeStep parseStr choice.env step world).1
  compensated := compensateStep choice.env.delivery
  saved := choice.saved
  found := choice.found
  now := choice.now

/-- What the execution of a step leaves outside the saga record. -/
def Deployment.executed (state : Deployment) (env : HandlerEnv)
    (step : SagaStep StepMap) : Deployment :=
  let answer := executeStep parseStr env step state.world
  { state with
    world := answer.2
    initiated :=
      if step.Initiates then env.paymentId parseStr :: state.initiated
      else state.initiated
    crashed := answer.1 = .error .panic }

def Deployment.performed (state : Deployment) (env : HandlerEnv) :
    Op StepMap → Deployment
  | .execute index =>
      match state.shared.saga.steps[index]? with
      | some step => state.executed parseStr env step
      | none => state
  | _ => state

def respond (choice : SagaChoice) (op : Op StepMap) (state : Deployment) :
    op.Res × Deployment :=
  let answer := op.respond (choice.answers parseStr state.world) state.shared
  (answer.1, { state.performed parseStr choice.env op with shared := answer.2 })

variable {ι : Type} [DecidableEq ι]

def takeTurn (system : SagaSystem ι) : Turn ι → SagaSystem ι
  | .saga thread choice =>
      if system.state.crashed then system
      else system.step (respond parseStr) sagaContract (thread, choice)
  | .callback env request =>
      { system with
        state.world :=
          (processCallback parseStr verify env request system.state.world).2 }

def runTurns (turns : List (Turn ι)) (system : SagaSystem ι) : SagaSystem ι :=
  turns.foldl (takeTurn parseStr verify) system

omit [DecimalText] [DecidableEq ι] in
/-- The engine on a started saga, calls of `CancelSaga`, and any payments. -/
def launched (saga : Saga StepMap) (world : World) : SagaSystem ι where
  state :=
    { shared := started saga
      world
      initiated := []
      crashed := false }
  notes := (sagaPool saga).notes
  threads := (sagaPool saga).threads

/-- The condition holds at every turn, in the system that takes it. -/
def EachTurn (condition : SagaSystem ι → Turn ι → Prop) :
    List (Turn ι) → SagaSystem ι → Prop
  | [], _ => True
  | turn :: turns, system =>
      condition system turn ∧
        EachTurn condition turns (takeTurn parseStr verify system turn)

instance decidableEachTurn {condition : SagaSystem ι → Turn ι → Prop}
    [∀ system turn, Decidable (condition system turn)] :
    (turns : List (Turn ι)) → (system : SagaSystem ι) →
      Decidable (EachTurn parseStr verify condition turns system)
  | [], _ => isTrue trivial
  | turn :: turns, system =>
      have : Decidable (EachTurn parseStr verify condition turns
          (takeTurn parseStr verify system turn)) :=
        decidableEachTurn turns _
      inferInstanceAs (Decidable (condition system turn ∧ _))

/-! ## Conditions on a turn -/

/-- The operation executes a step that initiates a payment. -/
def Deployment.Initiates (state : Deployment) : Op StepMap → Prop
  | .execute index =>
      ∃ step ∈ state.shared.saga.steps[index]?, step.Initiates
  | _ => False

instance (state : Deployment) : (op : Op StepMap) →
    Decidable (state.Initiates op)
  | .execute index =>
      inferInstanceAs (Decidable (∃ step ∈ state.shared.saga.steps[index]?, _))
  | .ctxDone | .assignStatus _ | .assignCompletedAt | .assignCurrentStep _
  | .assignStepStatus _ _ | .assignStepError _ _ | .assignStepOutput _ _
  | .saveSaga | .getSaga | .compensate _ | .lookupRunning | .deleteRunning
  | .cancel => isFalse id

/-- `Uuid::new_v4` draws an id that no stored payment has. -/
def DrawsFresh (system : SagaSystem ι) : Turn ι → Prop
  | .saga thread choice =>
      match system.threads thread with
      | .perform op _ => system.state.Initiates op →
          system.state.world.statusOf (choice.env.paymentId parseStr) = none
      | .done _ => True
  | .callback _ _ => True

instance (system : SagaSystem ι) :
    (turn : Turn ι) → Decidable (DrawsFresh parseStr system turn)
  | .saga thread choice =>
      match hthread : system.threads thread with
      | .perform op _ =>
          decidable_of_iff (system.state.Initiates op →
              system.state.world.statusOf (choice.env.paymentId parseStr) = none)
            (by simp only [DrawsFresh, hthread])
      | .done _ => isTrue (by simp only [DrawsFresh, hthread])
  | .callback _ _ => isTrue trivial

/-- The turn is no callback that confirms a payment of the saga. -/
def LeavesUnconfirmed (system : SagaSystem ι) : Turn ι → Prop
  | .saga _ _ => True
  | .callback env request => ∀ paymentId ∈ system.state.initiated,
      ¬ Confirms parseStr verify env request system.state.world paymentId

/-! ## Steps and runs -/

variable {parseStr verify} {state : Deployment}

theorem noneCompleted_executed_iff {env : HandlerEnv} {step : SagaStep StepMap}
    (hfresh : step.Initiates →
      state.world.statusOf (env.paymentId parseStr) = none) :
    (state.executed parseStr env step).NoneCompleted ↔ state.NoneCompleted := by
  have hother : ∀ paymentId, state.world.statusOf paymentId = some .completed →
      step.Initiates → env.paymentId parseStr ≠ paymentId := by
    intro paymentId hcompleted hinitiates hsame
    rw [← hsame, hfresh hinitiates] at hcompleted
    cases hcompleted
  constructor
  · intro hnone paymentId hmem hcompleted
    apply hnone paymentId
    · by_cases hinitiates : step.Initiates
      · simp [Deployment.executed, hinitiates, hmem]
      · simpa [Deployment.executed, hinitiates] using hmem
    · exact (statusOf_executeStep_of_ne (hother paymentId hcompleted)).trans
        hcompleted
  · intro hnone paymentId hmem hcompleted
    have hbefore := completed_of_executeStep hcompleted
    apply hnone paymentId _ hbefore
    by_cases hinitiates : step.Initiates
    · simp only [Deployment.executed, if_pos hinitiates, List.mem_cons] at hmem
      exact hmem.resolve_left fun hsame =>
        hother paymentId hbefore hinitiates hsame.symm
    · simpa only [Deployment.executed, if_neg hinitiates] using hmem

theorem noneCompleted_respond_iff {choice : SagaChoice} {op : Op StepMap}
    (hfresh : state.Initiates op →
      state.world.statusOf (choice.env.paymentId parseStr) = none) :
    (respond parseStr choice op state).2.NoneCompleted ↔
      state.NoneCompleted := by
  change (state.performed parseStr choice.env op).NoneCompleted ↔ _
  cases op with
  | execute index =>
      cases hstep : state.shared.saga.steps[index]? with
      | none => simp only [Deployment.performed, hstep]
      | some step =>
          simp only [Deployment.performed, hstep]
          apply noneCompleted_executed_iff
          intro hinitiates
          exact hfresh ⟨step, hstep, hinitiates⟩
  | _ => exact Iff.rfl

variable {ι : Type} [DecidableEq ι] {system : SagaSystem ι}

/-- A turn leaves no payment of the saga Completed exactly if none was so
before and it confirms none. -/
theorem noneCompleted_takeTurn_iff {turn : Turn ι}
    (hfresh : DrawsFresh parseStr system turn) :
    (takeTurn parseStr verify system turn).state.NoneCompleted ↔
      system.state.NoneCompleted ∧
        LeavesUnconfirmed parseStr verify system turn := by
  cases turn with
  | saga thread choice =>
      rw [LeavesUnconfirmed, and_true, takeTurn]
      split
      · exact Iff.rfl
      · cases hthread : system.threads thread with
        | done result => rw [Pool.step_of_done hthread]
        | perform op next =>
            have hstate : (system.step (respond parseStr) sagaContract
                (thread, choice)).state = _ := Pool.state_step hthread
            rw [hstate]
            apply noneCompleted_respond_iff
            simpa only [DrawsFresh, hthread] using hfresh
  | callback env request =>
      simp only [takeTurn, LeavesUnconfirmed, Deployment.NoneCompleted, ne_eq,
        PaymentEngine.statusOf_processCallback_eq_completed_iff, not_or,
        imp_and, forall_and]

theorem noneCompleted_runTurns_iff {turns : List (Turn ι)}
    (hfresh : EachTurn parseStr verify (DrawsFresh parseStr) turns system) :
    (runTurns parseStr verify turns system).state.NoneCompleted ↔
      system.state.NoneCompleted ∧
        EachTurn parseStr verify (LeavesUnconfirmed parseStr verify) turns
          system := by
  induction turns generalizing system with
  | nil => exact (and_iff_left trivial).symm
  | cons turn turns ih =>
      calc (runTurns parseStr verify (turn :: turns) system).state.NoneCompleted
        _ ↔ (takeTurn parseStr verify system turn).state.NoneCompleted ∧ _ :=
          ih hfresh.2
        _ ↔ (system.state.NoneCompleted ∧ _) ∧ _ :=
          and_congr_left' (noneCompleted_takeTurn_iff hfresh.1)
        _ ↔ _ := and_assoc

/-- When a saga has failed, none of its payments is Completed exactly if no
callback has confirmed one: a verified report of success that found the payment
Pending or Processing and was saved.  The compensations make no difference. -/
theorem failed_saga_none_completed_iff (saga : Saga StepMap) (world : World)
    (turns : List (Turn ι))
    (hfresh : EachTurn parseStr verify (DrawsFresh parseStr) turns
      (launched saga world)) :
    let final := runTurns parseStr verify turns (launched saga world)
    final.state.shared.saga.status = .failed →
      (final.state.NoneCompleted ↔
        EachTurn parseStr verify (LeavesUnconfirmed parseStr verify) turns
          (launched saga world)) := by
  intro final _
  have hstart : (launched saga world : SagaSystem ι).state.NoneCompleted := by
    intro paymentId hmem
    cases hmem
  exact (noneCompleted_runTurns_iff hfresh).trans (and_iff_right hstart)

end Runs

namespace Samples

open PaymentEngine (Decimal decimalOfCents CallbackStatus)
open PaymentEngine.Samples (noPayments reliable world)

/-- `rust_decimal` on the amount of the sample. -/
scoped instance centsText : DecimalText where
  toText amount :=
    if amount.mantissa = 10000 ∧ amount.scale = 2 then "100.00"
    else toString amount.mantissa
  parse text :=
    if text = "100.00" then .ok (decimalOfCents 10000)
    else .error "Invalid decimal: unknown character"
  isDecimalDigit := Char.isDigit

/-- `Uuid::parse_str` on the ids of the sample. -/
def parseStr (text : String) : Option Uuid :=
  [1, 2].find? fun id => Text.uuid id = text

def paymentStep (number : ℕ) (action compensationAction : String)
    (input : StepMap) : SagaStep StepMap where
  id := 0
  sagaId := 0
  stepNumber := number
  service := "payment"
  action
  status := .pending
  compensationAction
  input := some input
  output := none
  error := ""

/-- A payment that can be compensated, and a status query, which the payment
engine refuses for its empty tenant id. -/
def paymentSaga : Saga StepMap where
  id := 0
  tenantId := 2
  status := .pending
  currentStep := 0
  totalSteps := 2
  steps :=
    [paymentStep 1 "InitiatePayment" "RefundPayment"
        [("amount_cents", .number 10000), ("tenant_id", .string (Text.uuid 2)),
          ("session_id", .string "s-1"), ("provider", .string "ecocash"),
          ("phone_number", .string "2637123456789"),
          ("reference", .string "REF-001"),
          ("idempotency_key", .string "idem-123")],
      paymentStep 2 "GetPaymentStatus" ""
        [("payment_id", .string (Text.uuid 1))]]
  createdAt := 0
  completedAt := none

/-- Messages and statements arrive, and the provider accepts the payment. -/
def accepting : SagaChoice where
  env :=
    { initiate :=
        { newId := 1
          handler :=
            { reliable with
              charged := fun _ => true
              reply := fun _ => .ok
                { providerReference := "MP-1"
                  status := .pending
                  message := none } } }
      query := reliable
      delivery := .delivered
      session := .error "unavailable" }
  saved := .ok ()
  found := .ok ()
  now := 0

/-- The engine runs to its end, and then the provider reports this status. -/
def reported (status : CallbackStatus) : List (Turn Unit) :=
  List.replicate 30 (.saga none accepting) ++
    [.callback { byReference := none, byId := none, handler := reliable }
      { providerReference := "MP-1"
        paymentId := ""
        status
        signature := ""
        rawPayload := [] }]

def afterReport (status : CallbackStatus) : SagaSystem Unit :=
  runTurns parseStr (fun _ _ => true) (reported status)
    (launched paymentSaga (world noPayments))

end Samples

open scoped Samples in
/-- The saga fails, and the provider reports a timeout. -/
theorem failed_saga_none_completed_iff_timeout :
    (Samples.afterReport .timeout).state.shared.saga.status = .failed ∧
      (Samples.afterReport .timeout).state.initiated = [1] ∧
        EachTurn Samples.parseStr (fun _ _ => true)
          (LeavesUnconfirmed Samples.parseStr fun _ _ => true)
          (Samples.reported .timeout)
          (launched Samples.paymentSaga
            (PaymentEngine.Samples.world PaymentEngine.Samples.noPayments)) := by
  have hfailed :
      (Samples.afterReport .timeout).state.shared.saga.status = .failed := by
    decide +kernel
  have hinitiated : (Samples.afterReport .timeout).state.initiated = [1] := by
    decide +kernel
  have hnone : (Samples.afterReport .timeout).state.NoneCompleted := by
    have hstatus : (Samples.afterReport .timeout).state.world.statusOf 1 =
        some .failed := by
      decide +kernel
    intro paymentId hmem
    rw [hinitiated, List.mem_singleton] at hmem
    rw [hmem, hstatus]
    decide
  exact ⟨hfailed, hinitiated,
    (failed_saga_none_completed_iff Samples.paymentSaga _
      (Samples.reported .timeout) (by decide +kernel) hfailed).mp hnone⟩

open scoped Samples in
/-- The first step has initiated its payment and its compensation is refused;
after the saga has failed, the provider reports success. -/
theorem failed_saga_payment_completed :
    let state := (Samples.afterReport .success).state
    state.shared.saga.status = .failed ∧
      state.shared.saga.steps.map SagaStep.status = [.completed, .failed] ∧
        state.shared.saga.steps.map (compensateStep .delivered) =
          [.error ("refund failed: rpc error: code = Unimplemented desc = " ++
              "refund_payment not implemented"), .ok ()] ∧
          state.initiated = [1] ∧
            state.world.statusOf 1 = some .completed := by
  decide +kernel

end UssdKernel.Orchestrator
