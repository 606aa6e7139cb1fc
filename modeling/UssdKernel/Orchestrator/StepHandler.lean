import UssdKernel.Orchestrator.SagaEngine
import UssdKernel.PaymentEngine.Port

/-!
# The step handler of the sagas

`ServiceStepHandler` runs the steps of a saga against the payment engine and
the session reconstructor.  A map that lacks a field, or holds it with another
type, makes a type assertion panic.  The handler is defined over whatever its
clients answer, and then taken with the payment engine; what the session
reconstructor answers is left to the surroundings, and so is whether a message
gets lost.
-/

namespace UssdKernel.Orchestrator

open PaymentEngine (World Status Code ProtoProvider PaymentStatus Money
  InitiateEnv InitiatePaymentRequest InitiatePaymentResponse
  GetPaymentStatusRequest GetPaymentStatusResponse RefundPaymentRequest
  DecimalText initiatePayment getPaymentStatus refundPayment)

/-- A value of a step's input or output. -/
inductive StepValue
  | string (text : String)
  | number (value : ℚ)
  | bool (value : Bool)
  | other
  deriving DecidableEq

abbrev StepMap := List (String × StepValue)

/-- A call that does not return a value: it panics, or it returns an error. -/
inductive StepFailure
  | panic
  | error (message : String)
  deriving DecidableEq

/-- `input[key].(string)`. -/
def textOf (input : Option StepMap) (key : String) :
    Except StepFailure String :=
  match (input.getD []).lookup key with
  | some (.string text) => .ok text
  | _ => .error .panic

/-- `int64(value)` of a `float64`.  Out of range it wraps, where Go leaves the
result to the implementation. -/
def truncate (value : ℚ) : Int64 :=
  Int64.ofInt (value.num.tdiv value.den)

def amountCents (input : Option StepMap) : Except StepFailure Int64 :=
  match (input.getD []).lookup "amount_cents" with
  | none => .ok 0
  | some (.number value) => .ok (truncate value)
  | some _ => .error .panic

def parseProviderInput : Option StepValue → ProtoProvider
  | some (.string "ecocash") => .ecocash
  | some (.string "onemoney") => .onemoney
  | some (.string "telecash") => .telecash
  | some (.string "mtn_momo") => .mtnMomo
  | some (.string "airtel_money") => .airtelMoney
  | _ => .providerUnspecified

def codeName : Code → String
  | .invalidArgument => "InvalidArgument"
  | .notFound => "NotFound"
  | .alreadyExists => "AlreadyExists"
  | .failedPrecondition => "FailedPrecondition"
  | .unimplemented => "Unimplemented"
  | .internal => "Internal"

/-- The text of an error returned by a client. -/
def rpcError (status : Status) : String :=
  "rpc error: code = " ++ codeName status.code ++ " desc = " ++ status.message

/-- The names of the protobuf values; `none` is the default. -/
def statusName : Option PaymentStatus → String
  | none => "PAYMENT_STATUS_UNSPECIFIED"
  | some .pending => "PAYMENT_PENDING"
  | some .processing => "PAYMENT_PROCESSING"
  | some .completed => "PAYMENT_COMPLETED"
  | some .failed => "PAYMENT_FAILED"
  | some .cancelled => "PAYMENT_CANCELLED"
  | some .refunded => "PAYMENT_REFUNDED"

/-- What happens to the messages of one call: they arrive, or the request or
the response is lost and the client reports this error. -/
inductive Delivery
  | delivered
  | requestLost (message : String)
  | responseLost (message : String)

/-- The surroundings of one handler call. -/
structure HandlerEnv where
  initiate : InitiateEnv
  query : PaymentEngine.Env
  delivery : Delivery
  session : Except String StepValue

/-- The request of an `InitiatePayment` step. -/
def initiateRequest (input : Option StepMap) :
    Except StepFailure InitiatePaymentRequest := do
  let cents ← amountCents input
  let tenantId ← textOf input "tenant_id"
  let sessionId ← textOf input "session_id"
  let phoneNumber ← textOf input "phone_number"
  let reference ← textOf input "reference"
  let idempotencyKey ← textOf input "idempotency_key"
  return {
    paymentId := ""
    tenantId
    sessionId
    provider := parseProviderInput ((input.getD []).lookup "provider")
    phoneNumber
    amount := some { amountCents := cents, currencyCode := "USD" }
    reference
    description := ""
    idempotencyKey := some idempotencyKey }

def initiateOutput (response : InitiatePaymentResponse) : StepMap :=
  [("success", .bool true), ("payment_id", .string response.paymentId),
    ("provider_reference", .string response.providerReference),
    ("status", .string (statusName (some response.status)))]

def success : StepMap := [("success", .bool true)]

/-! ## The handler over its clients -/

/-- What the clients of the handler answer; `InitiatePayment` changes a state. -/
structure Clients (State : Type) where
  initiatePayment : InitiatePaymentRequest → State →
    Except String InitiatePaymentResponse × State
  getPaymentStatus : GetPaymentStatusRequest → State →
    Except String GetPaymentStatusResponse
  refundPayment : RefundPaymentRequest → Except String Unit
  reconstructSession : (sessionId tenantId : String) → Except String StepValue

/-- What the handler makes of a client's answer. -/
def passOn {A : Type} (wrap : String → String) (output : A → StepMap) :
    Except String A → Except StepFailure StepMap
  | .error message => .error (.error (wrap message))
  | .ok value => .ok (output value)

namespace Clients

variable {State : Type} (clients : Clients State)

section Input

variable (input : Option StepMap)

def executeInitiatePayment (state : State) :
    Except StepFailure StepMap × State :=
  match initiateRequest input with
  | .error failure => (.error failure, state)
  | .ok request =>
      let answer := clients.initiatePayment request state
      (passOn ("payment initiation failed: " ++ ·) initiateOutput answer.1,
        answer.2)

def executeGetPaymentStatus (state : State) : Except StepFailure StepMap := do
  let paymentId ← textOf input "payment_id"
  passOn id (fun response =>
      [("success", .bool true),
        ("status", .string (statusName response.status))])
    (clients.getPaymentStatus { paymentId, tenantId := "" } state)

def executeReconstructSession : Except StepFailure StepMap := do
  let sessionId ← textOf input "session_id"
  let tenantId ← textOf input "tenant_id"
  passOn id (fun state => [("success", .bool true), ("state", state)])
    (clients.reconstructSession sessionId tenantId)

end Input

section Step

variable (step : SagaStep StepMap)

def executePaymentStep (state : State) : Except StepFailure StepMap × State :=
  match step.action with
  | "InitiatePayment" => clients.executeInitiatePayment step.input state
  | "GetPaymentStatus" =>
      (clients.executeGetPaymentStatus step.input state, state)
  | _ => (.ok success, state)

def executeSessionStep : Except StepFailure StepMap :=
  match step.action with
  | "ReconstructSession" => clients.executeReconstructSession step.input
  | _ => .ok success

/-- `Execute` of the handler. -/
def execute (state : State) : Except StepFailure StepMap × State :=
  match step.service with
  | "payment" => clients.executePaymentStep step state
  | "session" => (clients.executeSessionStep step, state)
  | _ => (.ok success, state)

end Step

end Clients

section Compensate

variable (refundPayment : RefundPaymentRequest → Except String Unit)
  (step : SagaStep StepMap)

def compensatePaymentStep : Except String Unit :=
  match (step.output.getD []).lookup "payment_id" with
  | some (.string paymentId) =>
      if paymentId = "" then .ok ()
      else
        match refundPayment
          { originalPaymentId := paymentId
            reason :=
              "saga compensation for step " ++ toString step.stepNumber } with
        | .ok () => .ok ()
        | .error message => .error ("refund failed: " ++ message)
  | _ => .ok ()

/-- `Compensate` of the handler. -/
def compensateWith : Except String Unit :=
  match step.service with
  | "payment" => compensatePaymentStep refundPayment step
  | _ => .ok ()

end Compensate

/-! ## The services -/

/-- A call that changes nothing. -/
def callReading {A : Type} (delivery : Delivery) (answer : Except Status A) :
    Except String A :=
  match delivery with
  | .requestLost message | .responseLost message => .error message
  | .delivered => answer.mapError rpcError

def callRefundPayment (delivery : Delivery) (request : RefundPaymentRequest) :
    Except String Unit :=
  callReading delivery (refundPayment request)

section Services

variable [DecimalText] (parseStr : String → Option Uuid) (env : HandlerEnv)

/-- One call of `InitiatePayment`, with what may get lost on the way. -/
def callInitiatePayment (request : InitiatePaymentRequest) (world : World) :
    Except String InitiatePaymentResponse × World :=
  let answer := initiatePayment parseStr env.initiate request world
  match env.delivery with
  | .requestLost message => (.error message, world)
  | .responseLost message => (.error message, answer.2)
  | .delivered =>
      match answer.1 with
      | .error status => (.error (rpcError status), answer.2)
      | .ok response => (.ok response, answer.2)

/-- The clients of the payment engine and the session reconstructor. -/
def serviceClients : Clients World where
  initiatePayment := callInitiatePayment parseStr env
  getPaymentStatus request world :=
    callReading env.delivery (getPaymentStatus parseStr env.query request world)
  refundPayment := callRefundPayment env.delivery
  reconstructSession _ _ := env.session

def executeStep (step : SagaStep StepMap) (world : World) :
    Except StepFailure StepMap × World :=
  (serviceClients parseStr env).execute step world

end Services

def compensateStep (delivery : Delivery) :
    SagaStep StepMap → Except String Unit :=
  compensateWith (callRefundPayment delivery)

/-! ## What a step leaves in the payment engine -/

section Effects

variable [DecimalText] {parseStr : String → Option Uuid} {env : HandlerEnv}
  {world : World} {input : Option StepMap} {request : InitiatePaymentRequest}
  {step : SagaStep StepMap}

/-- The step initiates a payment. -/
def SagaStep.Initiates (step : SagaStep StepMap) : Prop :=
  step.service = "payment" ∧ step.action = "InitiatePayment"

instance (step : SagaStep StepMap) : Decidable step.Initiates :=
  inferInstanceAs (Decidable (_ ∧ _))

/-- The id of the payment that the step initiates. -/
def HandlerEnv.paymentId (parseStr : String → Option Uuid) (env : HandlerEnv) :
    Uuid :=
  (parseStr "").getD env.initiate.newId

omit [DecimalText] in
theorem paymentId_of_initiateRequest
    (hrequest : initiateRequest input = .ok request) :
    env.initiate.paymentId parseStr request = env.paymentId parseStr := by
  have htext : request.paymentId = "" := by
    unfold initiateRequest at hrequest
    simp only [bind, Except.bind, pure, Except.pure] at hrequest
    repeat' split at hrequest
    all_goals cases hrequest
    rfl
  rw [InitiateEnv.paymentId, htext, HandlerEnv.paymentId]

theorem world_callInitiatePayment (request : InitiatePaymentRequest) :
    (callInitiatePayment parseStr env request world).2 = world ∨
      (callInitiatePayment parseStr env request world).2 =
        (initiatePayment parseStr env.initiate request world).2 := by
  unfold callInitiatePayment
  cases env.delivery with
  | requestLost message => exact Or.inl rfl
  | responseLost message => exact Or.inr rfl
  | delivered =>
      right
      dsimp only
      split <;> rfl

/-- A step leaves the payments alone, or what one `InitiatePayment` leaves. -/
theorem executeStep_cases (parseStr : String → Option Uuid) (env : HandlerEnv)
    (step : SagaStep StepMap) (world : World) :
    (executeStep parseStr env step world).2 = world ∨
      step.Initiates ∧ ∃ request,
        env.initiate.paymentId parseStr request = env.paymentId parseStr ∧
          (executeStep parseStr env step world).2 =
            (initiatePayment parseStr env.initiate request world).2 := by
  by_cases hinitiates : step.Initiates
  · have hstep : executeStep parseStr env step world =
        (serviceClients parseStr env).executeInitiatePayment step.input
          world := by
      simp only [executeStep, Clients.execute, hinitiates.1,
        Clients.executePaymentStep, hinitiates.2]
    rw [hstep, Clients.executeInitiatePayment]
    cases hrequest : initiateRequest step.input with
    | error failure => exact .inl rfl
    | ok request =>
        apply (world_callInitiatePayment request).imp_right
        intro hworld
        exact ⟨hinitiates, request, paymentId_of_initiateRequest hrequest,
          hworld⟩
  · left
    unfold executeStep Clients.execute
    split
    · next hservice =>
      unfold Clients.executePaymentStep
      split
      · next haction => exact absurd ⟨hservice, haction⟩ hinitiates
      · rfl
      · rfl
    · rfl
    · rfl

/-- A step completes no payment. -/
theorem completed_of_executeStep {paymentId : Uuid}
    (hcompleted : (executeStep parseStr env step world).2.statusOf paymentId =
      some .completed) :
    world.statusOf paymentId = some .completed := by
  rcases executeStep_cases parseStr env step world with
    hworld | ⟨-, request, -, hworld⟩
  · rw [hworld] at hcompleted
    exact hcompleted
  · rw [hworld] at hcompleted
    exact PaymentEngine.completed_of_initiatePayment hcompleted

/-- A step leaves the payments other than the one it initiates. -/
theorem statusOf_executeStep_of_ne {paymentId : Uuid}
    (hne : step.Initiates → env.paymentId parseStr ≠ paymentId) :
    (executeStep parseStr env step world).2.statusOf paymentId =
      world.statusOf paymentId := by
  rcases executeStep_cases parseStr env step world with
    hworld | ⟨hinitiates, request, hid, hworld⟩
  · rw [hworld]
  · rw [hworld]
    apply PaymentEngine.statusOf_initiatePayment_of_ne
    rw [hid]
    exact hne hinitiates

end Effects

end UssdKernel.Orchestrator
