import UssdKernel.PaymentEngine.Repository

/-!
# The two handlers

`InitiatePaymentHandler::handle` and `ProcessCallbackHandler::handle` as
programs over database statements, provider requests and clock readings.  The
waiting time between two provider requests is not an operation: nothing
depends on it.
-/

namespace UssdKernel.PaymentEngine

open UssdKernel.Programs

/-! ## Initiation -/

structure InitiatePaymentCommand where
  paymentId : Uuid
  tenantId : Uuid
  idempotencyKey : String
  provider : MobileMoneyProvider
  phoneNumber : String
  amount : Decimal
  currency : String
  reference : String
  description : String

structure InitiateResult where
  payment : Payment
  providerReference : Option String
  deriving DecidableEq

namespace InitiatePaymentHandler

def maxAttempts : ℕ := 3

/-- The loop of `call_provider_with_retry`, with the remaining attempts and
`last_error`. -/
def attemptsLoop (payment : Payment) :
    ℕ → Option DomainError → Handler ProviderResponse
  | 0, lastError =>
      Prog.raise (lastError.getD
        (.providerError "Unknown provider error after retries"))
  | remaining + 1, _ =>
      .perform (.initiate payment) fun
        | .ok response => .done (.ok response)
        | .error error => attemptsLoop payment remaining (some error)

def callProviderWithRetry (payment : Payment) : Handler ProviderResponse :=
  attemptsLoop payment maxAttempts none

variable [DecimalText]

def newPayment (cmd : InitiatePaymentCommand) (now : DateTime) :
    Except DomainError Payment :=
  Payment.new cmd.paymentId cmd.tenantId cmd.idempotencyKey cmd.provider
    cmd.phoneNumber cmd.amount cmd.currency cmd.reference cmd.description now

def initiatedPayload (payment : Payment) (response : ProviderResponse) :
    Payload :=
  [("event", .text "PaymentInitiated"),
    ("payment_id", .uuid payment.paymentId),
    ("provider_reference", .text response.providerReference),
    ("status", .text payment.status.asStr)]

def failedPayload (payment : Payment) (error : DomainError) : Payload :=
  [("event", .text "PaymentFailed"),
    ("payment_id", .uuid payment.paymentId),
    ("reason", .text error.toText),
    ("status", .text payment.status.asStr)]

section Command

variable (cmd : InitiatePaymentCommand)

/-- Step 1 of `handle`. -/
def checkIdempotency : Handler Unit := do
  match ← findByIdempotencyKey cmd.tenantId cmd.idempotencyKey with
  | some _ => Prog.raise .idempotencyViolation
  | none => pure ()

/-- The `Ok` arm of the provider result. -/
def recordInitiated (payment : Payment) (response : ProviderResponse) :
    Handler InitiateResult := do
  let processing ← Prog.done payment.markProcessing
  let updated :=
    { processing with providerReference := some response.providerReference }
  savePayment updated
  appendOutbox "PaymentInitiated" updated.paymentId
    (initiatedPayload updated response)
    (cmd.idempotencyKey ++ "-initiated") updated.tenantId
  pure
    { payment := updated
      providerReference := some response.providerReference }

/-- The `Err` arm of the provider result. -/
def recordFailed (payment : Payment) (error : DomainError) :
    Handler InitiateResult := do
  let now ← utcNow
  let updated := payment.orKeep (payment.markFailed now error.toText)
  savePayment updated
  -- `.ok()`: a lost event does not hide the provider error.
  let _ ← (appendOutbox "PaymentFailed" updated.paymentId
    (failedPayload updated error)
    (cmd.idempotencyKey ++ "-failed") updated.tenantId).attempt
  Prog.raise error

def handle : Handler InitiateResult := do
  checkIdempotency cmd
  let now ← utcNow
  let payment ← Prog.done (newPayment cmd now)
  savePayment payment
  match ← (callProviderWithRetry payment).attempt with
  | .ok response => recordInitiated cmd payment response
  | .error error => recordFailed cmd payment error

end Command

end InitiatePaymentHandler

/-! ## Callbacks -/

structure ProcessCallbackCommand where
  tenantId : Uuid
  providerReference : String
  paymentId : Option Uuid
  status : ProviderStatus
  signature : String
  rawPayload : List UInt8

structure CallbackResult where
  payment : Payment
  accepted : Bool
  newStatus : String
  deriving DecidableEq

namespace ProcessCallbackHandler

def notFound (cmd : ProcessCallbackCommand) : DomainError :=
  .notFound
    ("Payment with provider_reference " ++ cmd.providerReference ++
      " not found")

def eventType : ProviderStatus → String
  | .completed => "PaymentCompleted"
  | .failed => "PaymentFailed"
  | .cancelled => "PaymentCancelled"
  | .refunded => "PaymentRefunded"
  | .pending | .processing | .unknown => "PaymentStatusUpdated"

def eventPayload (cmd : ProcessCallbackCommand) (previousStatus : PaymentStatus)
    (payment : Payment) : Payload :=
  [("event", .text (eventType cmd.status)),
    ("payment_id", .uuid payment.paymentId),
    ("previous_status", .text previousStatus.asStr),
    ("new_status", .text payment.status.asStr),
    ("provider_reference", .text cmd.providerReference)]

variable [DecimalText]

/-- The fallback of step 2, for a command that carries a payment id. -/
def lookupById (cmd : ProcessCallbackCommand) : Handler Payment := do
  match cmd.paymentId with
  | none => Prog.raise (notFound cmd)
  | some paymentId =>
      match ← getPaymentById cmd.tenantId paymentId with
      | some payment => pure payment
      | none => Prog.raise (notFound cmd)

/-- Step 2 of `handle`. -/
def lookup (cmd : ProcessCallbackCommand) : Handler Payment := do
  match ← getPaymentByProviderRef (some cmd.tenantId) cmd.providerReference with
  | some payment => pure payment
  | none => lookupById cmd

/-- Step 5 of `handle`. -/
def appendEvent (cmd : ProcessCallbackCommand) (previousStatus : PaymentStatus)
    (payment : Payment) : Handler Unit :=
  appendOutbox (eventType cmd.status) payment.paymentId
    (eventPayload cmd previousStatus payment)
    (cmd.providerReference ++ "-" ++ eventType cmd.status) payment.tenantId

/-- `verifyCallbackSignature` is the method of the `ProviderClient`. -/
def handle (verifyCallbackSignature : List UInt8 → String → Bool)
    (cmd : ProcessCallbackCommand) : Handler CallbackResult := do
  if verifyCallbackSignature cmd.rawPayload cmd.signature then
    let payment ← lookup cmd
    let now ← utcNow
    let updated :=
      payment.applyProviderStatus now cmd.status (some cmd.providerReference)
    savePayment updated
    appendEvent cmd payment.status updated
    pure
      { payment := updated
        accepted := true
        newStatus := updated.status.asStr }
  else
    Prog.raise (.providerError "Invalid callback signature")

end ProcessCallbackHandler

/-! ## Sample commands -/

namespace Samples

def initiation (paymentId : Uuid) : InitiatePaymentCommand where
  paymentId
  tenantId := 2
  idempotencyKey := "idem-123"
  provider := .ecoCash
  phoneNumber := "2637123456789"
  amount := hundred
  currency := "USD"
  reference := "REF-001"
  description := "Test payment"

/-- A callback for the payment with id 1 and provider reference `MP-1`. -/
def callback (status : ProviderStatus) : ProcessCallbackCommand where
  tenantId := 2
  providerReference := "MP-1"
  paymentId := some 1
  status
  signature := ""
  rawPayload := []

/-- A database that holds only the given payments. -/
def world (payments : PaymentTable) : World where
  db := { payments, topics := [], outbox := [] }
  charges := 0

def noPayments : PaymentTable where
  rows := []
  ids_nodup := by decide

/-- A table with one payment. -/
def onePayment (payment : Payment) : PaymentTable where
  rows := [.ofPayment payment]
  ids_nodup := by simp

/-- Statements succeed, and the provider accepts and charges. -/
def smooth : Choice where
  failure := none
  charged := true
  reply := .ok
    { providerReference := "MP-1"
      status := .pending
      message := none }
  now := 5

end Samples

end UssdKernel.PaymentEngine
