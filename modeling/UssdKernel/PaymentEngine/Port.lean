import UssdKernel.Core.Text
import UssdKernel.PaymentEngine.Events

/-!
# The gRPC port

`PaymentGrpcServer`: requests are checked and mapped to commands of the two
handlers, and the results are mapped back.  `parseStr` stands for
`Uuid::parse_str`.  `refund_payment` is not implemented, so no request changes
a payment except through the two handlers.
-/

namespace UssdKernel.PaymentEngine

inductive Code
  | invalidArgument
  | notFound
  | alreadyExists
  | failedPrecondition
  | unimplemented
  | internal
  deriving DecidableEq

/-- A `Status` other than OK. -/
structure Status where
  code : Code
  message : String
  deriving DecidableEq

inductive ProtoProvider
  | providerUnspecified
  | ecocash
  | onemoney
  | telecash
  | mtnMomo
  | airtelMoney
  deriving DecidableEq

def ProtoProvider.number : ProtoProvider → ℕ
  | providerUnspecified => 0
  | ecocash => 1
  | onemoney => 2
  | telecash => 3
  | mtnMomo => 4
  | airtelMoney => 5

inductive CallbackStatus
  | unspecified
  | success
  | failed
  | timeout
  | cancelled
  | pending
  deriving DecidableEq

def CallbackStatus.number : CallbackStatus → ℕ
  | unspecified => 0
  | success => 1
  | failed => 2
  | timeout => 3
  | cancelled => 4
  | pending => 5

structure Money where
  amountCents : Int64
  currencyCode : String

structure InitiatePaymentRequest where
  paymentId : String
  tenantId : String
  sessionId : String
  provider : ProtoProvider
  phoneNumber : String
  amount : Option Money
  reference : String
  description : String
  idempotencyKey : Option String

/-- The fields of the response that depend on the result. -/
structure InitiatePaymentResponse where
  paymentId : String
  status : PaymentStatus
  providerReference : String

structure GetPaymentStatusRequest where
  paymentId : String
  tenantId : String

/-- `status` is `none` for the default of the field, 0. -/
structure GetPaymentStatusResponse where
  paymentId : String
  status : Option PaymentStatus

structure ProcessCallbackRequest where
  providerReference : String
  paymentId : String
  status : CallbackStatus
  signature : String
  rawPayload : List UInt8

structure ProcessCallbackResponse where
  accepted : Bool
  message : String
  paymentId : String
  newStatus : Option PaymentStatus

structure RefundPaymentRequest where
  originalPaymentId : String
  reason : String

/-! ## Mappings -/

def mapDomainError (error : DomainError) : Status where
  code :=
    match error with
    | .invalidPhoneNumber _ | .invalidAmount _ | .invalidReference _ =>
        .invalidArgument
    | .providerError _ => .failedPrecondition
    | .idempotencyViolation => .alreadyExists
    | .notFound _ => .notFound
    | .invalidStatusTransition _ _ => .failedPrecondition
    | .databaseError _ => .internal
  message := error.toText

def mapProtoProvider : ProtoProvider → Except Status MobileMoneyProvider
  | .ecocash => .ok .ecoCash
  | .onemoney => .ok .oneMoney
  | .telecash => .ok .telecash
  | provider => .error
      { code := .invalidArgument
        message := "Unsupported provider: " ++ toString provider.number }

def mapCallbackStatus : CallbackStatus → Except Status ProviderStatus
  | .success => .ok .completed
  | .failed => .ok .failed
  | .timeout => .ok .failed
  | .cancelled => .ok .cancelled
  | .pending => .ok .pending
  | status => .error
      { code := .invalidArgument
        message := "Unknown callback status: " ++ toString status.number }

/-- `Decimal::new(amount_cents, 2)`. -/
def decimalOfCents (cents : Int64) : Decimal where
  mantissa := cents.toInt
  scale := 2
  mantissa_lt := by
    have hlower := cents.le_toInt
    have hupper := cents.toInt_lt
    omega
  scale_le := by norm_num

def protoMoneyToDecimal : Option Money → Except Status Decimal
  | some money => .ok (decimalOfCents money.amountCents)
  | none => .error
      { code := .invalidArgument
        message := "Amount is required" }

variable {parseStr : String → Option Uuid} [DecimalText]

section Port

variable (parseStr)

def parseUuid (text : String) : Except Status Uuid :=
  match parseStr text with
  | some id => .ok id
  | none => .error
      { code := .invalidArgument
        message := "Invalid UUID: " ++ text }

/-! ## `initiate_payment` -/

/-- The surroundings of one `initiate_payment`: the id that `Uuid::new_v4` would
draw, and those of the handler. -/
structure InitiateEnv where
  newId : Uuid
  handler : Env

def InitiateEnv.paymentId (env : InitiateEnv) (request : InitiatePaymentRequest) :
    Uuid :=
  (parseStr request.paymentId).getD env.newId

def initiateCommand (env : InitiateEnv) (request : InitiatePaymentRequest) :
    Except Status InitiatePaymentCommand := do
  let tenantId ← parseUuid parseStr request.tenantId
  let paymentId := env.paymentId parseStr request
  let provider ← mapProtoProvider request.provider
  let amount ← protoMoneyToDecimal request.amount
  return {
    paymentId
    tenantId
    idempotencyKey := request.idempotencyKey.getD (Text.uuid paymentId)
    provider
    phoneNumber := request.phoneNumber
    amount
    currency := (request.amount.map Money.currencyCode).getD "USD"
    reference := request.reference
    description := request.description }

def buildInitiateResponse (result : InitiateResult) : InitiatePaymentResponse where
  paymentId := Text.uuid result.payment.paymentId
  status := result.payment.status
  providerReference := result.providerReference.getD ""

def initiatePayment (env : InitiateEnv) (request : InitiatePaymentRequest)
    (world : World) : Except Status InitiatePaymentResponse × World :=
  match initiateCommand parseStr env request with
  | .error status => (.error status, world)
  | .ok command =>
      let answer := (InitiatePaymentHandler.handle command).exec
        env.handler.respond (.start world)
      match answer.1 with
      | .ok result => (.ok (buildInitiateResponse result), answer.2.world)
      | .error error => (.error (mapDomainError error), answer.2.world)

/-! ## `get_payment_status` and `refund_payment` -/

def getPaymentStatus (env : Env) (request : GetPaymentStatusRequest)
    (world : World) : Except Status GetPaymentStatusResponse := do
  let tenantId ← parseUuid parseStr request.tenantId
  let paymentId ← parseUuid parseStr request.paymentId
  match ((getPaymentById tenantId paymentId).exec env.respond
    (.start world)).1 with
  | .ok (some payment) =>
      return {
        paymentId := Text.uuid payment.paymentId
        status := some payment.status }
  | .ok none | .error _ =>
      return { paymentId := Text.uuid paymentId, status := none }

/-- Every refund is refused. -/
def refundPayment (_request : RefundPaymentRequest) : Except Status Unit :=
  .error
    { code := .unimplemented
      message := "refund_payment not implemented" }

/-! ## `process_callback` -/

/-- The surroundings of one `process_callback`: failures of the port's two
lookups, and those of the handler. -/
structure CallbackEnv where
  byReference : Option String
  byId : Option String
  handler : Env

/-- A lookup of the port, outside any tenant. -/
def lookupPayment (failure : Option String) (filter : PaymentFilter)
    (world : World) : Except DomainError (Option Payment) :=
  match failure with
  | some message => .error (.databaseError message)
  | none => convert (world.db.payments.rows.find? filter.admits)

def rejected (message paymentId : String) : ProcessCallbackResponse where
  accepted := false
  message := message
  paymentId := paymentId
  newStatus := none

/-- The payment that a callback is about, or the response that ends the
request. -/
def callbackPayment (env : CallbackEnv) (request : ProcessCallbackRequest)
    (paymentId : Option Uuid) (world : World) :
    Except ProcessCallbackResponse Payment :=
  match lookupPayment env.byReference
    (.providerReference request.providerReference) world with
  | .ok (some payment) => .ok payment
  | .ok none =>
      match paymentId with
      | some id =>
          match lookupPayment env.byId (.paymentId id) world with
          | .ok (some payment) => .ok payment
          | .ok none | .error _ =>
              .error (rejected "Payment not found" (Text.uuid id))
      | none => .error (rejected "Payment not found" "")
  | .error _ =>
      .error (rejected "Database error" ((paymentId.map Text.uuid).getD ""))

def callbackCommand (request : ProcessCallbackRequest) (status : ProviderStatus)
    (payment : Payment) : ProcessCallbackCommand where
  tenantId := payment.tenantId
  providerReference := request.providerReference
  paymentId := some payment.paymentId
  status := status
  signature := request.signature
  rawPayload := request.rawPayload

/-- The payment id of the request, if there is one. -/
def callbackPaymentId (request : ProcessCallbackRequest) :
    Except Status (Option Uuid) :=
  if request.paymentId = "" then .ok none
  else (parseUuid parseStr request.paymentId).map some

def processCallback (verify : List UInt8 → String → Bool) (env : CallbackEnv)
    (request : ProcessCallbackRequest) (world : World) :
    Except Status ProcessCallbackResponse × World :=
  match callbackPaymentId parseStr request,
    mapCallbackStatus request.status with
  | .error status, _ => (.error status, world)
  | .ok _, .error status => (.error status, world)
  | .ok paymentId, .ok status =>
      match callbackPayment env request paymentId world with
      | .error response => (.ok response, world)
      | .ok payment =>
          let answer := (ProcessCallbackHandler.handle verify
            (callbackCommand request status payment)).exec env.handler.respond
              (.start world)
          match answer.1 with
          | .ok result =>
              (.ok
                { accepted := result.accepted
                  message := "Callback processed"
                  paymentId := Text.uuid result.payment.paymentId
                  newStatus := some result.payment.status }, answer.2.world)
          | .error _ =>
              (.ok (rejected "Callback processing failed"
                (Text.uuid payment.paymentId)), answer.2.world)

end Port

/-! ## Which requests complete a payment -/

section Completion

variable {world : World}

variable {paymentId : Uuid}

section Initiations

variable {env : InitiateEnv} {request : InitiatePaymentRequest}

omit [DecimalText] in
theorem paymentId_of_initiateCommand {command : InitiatePaymentCommand}
    (hcommand : initiateCommand parseStr env request = .ok command) :
    command.paymentId = env.paymentId parseStr request := by
  obtain ⟨tenantId, -, hafter⟩ := Results.bind_eq_ok.mp hcommand
  obtain ⟨provider, -, hafter⟩ := Results.bind_eq_ok.mp hafter
  obtain ⟨amount, -, hafter⟩ := Results.bind_eq_ok.mp hafter
  cases hafter
  rfl

/-- A refused request changes nothing, and another one leaves what its handler
leaves. -/
theorem initiatePayment_cases (parseStr : String → Option Uuid)
    (env : InitiateEnv) (request : InitiatePaymentRequest) (world : World) :
    (initiatePayment parseStr env request world).2 = world ∨
      ∃ command, command.paymentId = env.paymentId parseStr request ∧
        (initiatePayment parseStr env request world).2 =
          InitiatePaymentHandler.worldAfter env.handler command world := by
  cases hcommand : initiateCommand parseStr env request with
  | error status =>
      left
      simp only [initiatePayment, hcommand]
  | ok command =>
      right
      refine ⟨command, paymentId_of_initiateCommand hcommand, ?_⟩
      simp only [initiatePayment, hcommand]
      split <;> rfl

/-- An initiation completes no payment. -/
theorem completed_of_initiatePayment
    (hcompleted : (initiatePayment parseStr env request world).2.statusOf
      paymentId = some .completed) :
    world.statusOf paymentId = some .completed := by
  rcases initiatePayment_cases parseStr env request world with
    hworld | ⟨command, -, hworld⟩
  · rw [hworld] at hcompleted
    exact hcompleted
  · rw [hworld] at hcompleted
    by_cases hsame : command.paymentId = paymentId
    · subst hsame
      rcases InitiatePaymentHandler.worldAfter_cases env.handler command world
        with ⟨payment, hreached⟩ | hleft
      · exact absurd hcompleted
          (InitiatePaymentHandler.statusOf_worldAfter_ne_completed hreached)
      · rw [hleft] at hcompleted
        exact hcompleted
    · rw [World.statusOf,
        InitiatePaymentHandler.statusOf_worldAfter_of_ne hsame] at hcompleted
      exact hcompleted

/-- An initiation leaves the other payments. -/
theorem statusOf_initiatePayment_of_ne
    (hne : env.paymentId parseStr request ≠ paymentId) :
    (initiatePayment parseStr env request world).2.statusOf paymentId =
      world.statusOf paymentId := by
  rcases initiatePayment_cases parseStr env request world with
    hworld | ⟨command, hid, hworld⟩
  · rw [hworld]
  · rw [hworld]
    exact InitiatePaymentHandler.statusOf_worldAfter_of_ne (hid ▸ hne)

end Initiations

section Callbacks

variable {verify : List UInt8 → String → Bool} {env : CallbackEnv}
  {request : ProcessCallbackRequest} {command : ProcessCallbackCommand}

/-- The command that a request hands to the handler. -/
def requestedCommand (parseStr : String → Option Uuid) (env : CallbackEnv)
    (request : ProcessCallbackRequest) (world : World) :
    Option ProcessCallbackCommand :=
  match callbackPaymentId parseStr request,
    mapCallbackStatus request.status with
  | .ok paymentId, .ok status =>
      match callbackPayment env request paymentId world with
      | .ok payment => some (callbackCommand request status payment)
      | .error _ => none
  | _, _ => none

/-- A verified report of success finds this payment open, and its save
succeeds. -/
def Confirms (parseStr : String → Option Uuid)
    (verify : List UInt8 → String → Bool) (env : CallbackEnv)
    (request : ProcessCallbackRequest) (world : World) (paymentId : Uuid) :
    Prop :=
  request.status = .success ∧
    ∃ command ∈ requestedCommand parseStr env request world, ∃ stored,
      ProcessCallbackHandler.Reaches verify env.handler command world stored ∧
        stored.paymentId = paymentId ∧ stored.status.isOpen = true ∧
          env.handler.Succeeds (ProcessCallbackHandler.found world.db.payments
            command).2 2

omit [DecimalText] in
theorem mapCallbackStatus_eq_ok {status : ProviderStatus}
    {reported : CallbackStatus}
    (hstatus : mapCallbackStatus reported = .ok status) :
    status ≠ .refunded ∧ (status = .completed ↔ reported = .success) := by
  cases reported <;> cases hstatus <;> simp

/-- A callback that reports no refund makes a payment Completed exactly if it
was so before, or if the callback reports completion, finds the payment open
and saves it. -/
theorem statusOf_worldAfter_eq_completed_iff {handlerEnv : Env}
    (hstatus : command.status ≠ .refunded) :
    (ProcessCallbackHandler.worldAfter verify handlerEnv command
        world).statusOf paymentId = some .completed ↔
      world.statusOf paymentId = some .completed ∨
        command.status = .completed ∧ ∃ stored,
          ProcessCallbackHandler.Reaches verify handlerEnv command world
              stored ∧
            stored.paymentId = paymentId ∧ stored.status.isOpen = true ∧
              handlerEnv.Succeeds (ProcessCallbackHandler.found
                world.db.payments command).2 2 := by
  by_cases hreached : ∃ payment, ProcessCallbackHandler.Reaches verify
      handlerEnv command world payment
  · obtain ⟨payment, hreaches⟩ := hreached
    have hunique : ∀ stored, ProcessCallbackHandler.Reaches verify handlerEnv
        command world stored → stored = payment := fun stored hstored =>
      Except.ok.inj (hstored.eq_ok.symm.trans hreaches.eq_ok)
    have hbefore : world.statusOf payment.paymentId = some payment.status :=
      ProcessCallbackHandler.statusOf_found hreaches.eq_ok
    rw [ProcessCallbackHandler.statusOf_worldAfter hreaches]
    split
    · next hsaved =>
      rw [← hsaved.2, hbefore, Option.some.injEq, Option.some.injEq,
        PaymentStatus.next_eq_completed_iff hstatus]
      apply or_congr_right
      constructor
      · rintro ⟨hopen, hcompleted⟩
        exact ⟨hcompleted, payment, hreaches, rfl, hopen, hsaved.1⟩
      · rintro ⟨hcompleted, stored, hstored, -, hopen, -⟩
        rw [hunique stored hstored] at hopen
        exact ⟨hopen, hcompleted⟩
    · next hunsaved =>
      refine (or_iff_left ?_).symm
      rintro ⟨-, stored, hstored, hid, -, hsave⟩
      rw [hunique stored hstored] at hid
      exact hunsaved ⟨hsave, hid⟩
  · rw [ProcessCallbackHandler.worldAfter_of_not_reaches
      (not_exists.mp hreached)]
    refine (or_iff_left ?_).symm
    rintro ⟨-, stored, hstored, -⟩
    exact hreached ⟨stored, hstored⟩

/-- A request that hands no command to the handler changes nothing. -/
theorem world_processCallback :
    (processCallback parseStr verify env request world).2 =
      (requestedCommand parseStr env request world).elim world fun command =>
        ProcessCallbackHandler.worldAfter verify env.handler command world := by
  unfold processCallback requestedCommand
  cases callbackPaymentId parseStr request with
  | error status => rfl
  | ok id =>
      cases mapCallbackStatus request.status with
      | error status => rfl
      | ok status =>
          dsimp only
          cases callbackPayment env request id world with
          | error response => rfl
          | ok payment =>
              dsimp only
              split <;> rfl

/-- A request never reports a refund, and reports completion exactly if it is
one of success. -/
theorem status_of_requestedCommand
    (hcommand : requestedCommand parseStr env request world = some command) :
    command.status ≠ .refunded ∧
      (command.status = .completed ↔ request.status = .success) := by
  unfold requestedCommand at hcommand
  split at hcommand
  · next id status hid hstatus =>
    split at hcommand
    · cases hcommand
      exact mapCallbackStatus_eq_ok hstatus
    · cases hcommand
  · cases hcommand

/-- A request makes a payment Completed exactly if it was so before or the
request confirms it. -/
theorem statusOf_processCallback_eq_completed_iff :
    (processCallback parseStr verify env request world).2.statusOf paymentId =
        some .completed ↔
      world.statusOf paymentId = some .completed ∨
        Confirms parseStr verify env request world paymentId := by
  rw [world_processCallback, Confirms]
  cases hcommand : requestedCommand parseStr env request world with
  | none => simp
  | some command =>
      obtain ⟨hrefund, hcompleted⟩ := status_of_requestedCommand hcommand
      rw [Option.elim_some, statusOf_worldAfter_eq_completed_iff hrefund,
        hcompleted]
      simp

end Callbacks

end Completion

end UssdKernel.PaymentEngine
