import UssdKernel.Core.Purging
import UssdKernel.Orchestrator.CircuitBreaker
import UssdKernel.Orchestrator.StepHandler

/-!
# Routing and the shared circuit breaker

`RouteRequest` asks the session reconstructor and the application of the tenant
for the next menu and initiates the payment that the menu asks for.  One circuit
breaker stands before the payment engine for all tenants, and every error of
`InitiatePayment` counts as a failure of the engine, also one that lies in the
request.

Requests of other tenants that the payment engine rejects for what they are
change nothing for a tenant as long as none of them opens the breaker, and none
is among the failures with which it opens.
-/

namespace UssdKernel.Routing

open Orchestrator CircuitBreakers Purging
open PaymentEngine (World DecimalText Money ProtoProvider Code
  InitiatePaymentRequest InitiatePaymentResponse InitiateEnv initiateCommand
  initiatePayment InitiatePaymentHandler.Reaches
  InitiatePaymentHandler.worldAfter_of_not_reaches)

/-! ## `RouteRequest` -/

structure RouteRequest where
  sessionId : String
  phoneNumber : String
  userInput : String
  currentMenu : String
  serviceCode : String
  sessionState : StepMap

structure Tenant where
  id : Uuid
  endpoint : String
  active : Bool
  rateLimitRPS : Int32

structure MenuRequest where
  sessionId : String
  phoneNumber : String
  userInput : String
  currentMenu : String
  sessionState : StepMap
  tenantId : String

/-- The payment that a menu asks for. -/
structure PaymentRequest where
  provider : String
  amount : Option Money
  reference : String
  description : String
  phoneNumber : String

inductive ResponseType
  | con
  | endType
  deriving DecidableEq

structure MenuResponse where
  type : ResponseType
  message : String
  options : List String
  nextMenu : String
  updatedState : Option StepMap
  payment : Option PaymentRequest

structure RouteResponse where
  menuText : String
  options : List String
  nextMenu : String
  updatedState : StepMap
  endSession : Bool
  paymentInitiated : Bool
  paymentId : String
  providerReference : String
  paymentStatus : String

/-- What surrounds one call: the answers of the rate limiter, the repository and
the clients, and the readings of the clock by the breaker. -/
structure RouteEnv where
  allow : (phoneNumber : String) → (limit : ℕ) → Bool
  getByServiceCode : String → Except String Tenant
  allowTenant : (tenantId : String) → (limit : ℤ) → Bool
  newStruct : StepMap → Except String StepMap
  reconstructSession : (sessionId tenantId : String) →
    Except String (Option StepMap)
  getClient : (endpoint : String) → Except String Unit
  handleMenu : MenuRequest → Except String MenuResponse
  services : HandlerEnv
  allowAt : Time
  recheckAt : Time
  failedAt : Time

/-- In Go `\d` matches the ASCII digits. -/
def phoneRegex : String → Bool := PaymentEngine.phonePattern Char.isDigit

def parseProvider : String → ProtoProvider
  | "ecocash" => .ecocash
  | "onemoney" => .onemoney
  | "telecash" => .telecash
  | "mtn_momo" => .mtnMomo
  | "airtel_money" => .airtelMoney
  | _ => .providerUnspecified

/-! ### The calls up to the menu -/

/-- A call of `InitiatePayment`. -/
structure Attempt where
  message : InitiatePaymentRequest
  answer : Except String InitiatePaymentResponse
  initiatedAt : Time
  returnedAt : Time

/-- A call that the router makes, with its answer. -/
inductive ExternalCall
  | allow (phoneNumber : String) (limit : ℕ) (answer : Bool)
  | getByServiceCode (serviceCode : String) (answer : Except String Tenant)
  | allowTenant (tenantId : String) (limit : ℤ) (answer : Bool)
  | reconstructSession (sessionId tenantId : String)
      (answer : Except String (Option StepMap))
  | getClient (endpoint : String) (answer : Except String Unit)
  | handleMenu (request : MenuRequest) (answer : Except String MenuResponse)
  | initiatePayment (attempt : Attempt)

/-- The result of a part of `RouteRequest`, and the calls that it makes. -/
abbrev Traced (Result : Type) := Except String Result × List ExternalCall

section Traced

variable {Answer Result : Type}

def record (call : ExternalCall) (rest : Traced Result) : Traced Result :=
  (rest.1, call :: rest.2)

def require (condition : Bool) (error : String) (rest : Traced Result) :
    Traced Result :=
  if condition then rest else (.error error, [])

def onOk (wrap : String → String) (answer : Except String Answer)
    (next : Answer → Traced Result) : Traced Result :=
  match answer with
  | .error error => (.error (wrap error), [])
  | .ok value => next value

end Traced

def tenantLimit (tenant : Tenant) : ℤ :=
  if tenant.rateLimitRPS = 0 then 100 else tenant.rateLimitRPS.toInt

def menuRequest (request : RouteRequest) (tenant : Tenant) (state : StepMap) :
    MenuRequest where
  sessionId := request.sessionId
  phoneNumber := request.phoneNumber
  userInput := request.userInput
  currentMenu := request.currentMenu
  sessionState := state
  tenantId := Text.uuid tenant.id

/-- The tenant of the request and the menu of its application, with the calls
up to it. -/
def menuCalls (env : RouteEnv) (request : RouteRequest) :
    Traced (Tenant × MenuResponse) :=
  require (phoneRegex request.phoneNumber)
    "invalid phone number: invalid phone number" <|
  let allowed := env.allow request.phoneNumber 60
  record (.allow request.phoneNumber 60 allowed) <|
  require allowed "rate limit exceeded for phone number" <|
  let found := env.getByServiceCode request.serviceCode
  record (.getByServiceCode request.serviceCode found) <|
  onOk ("tenant not found: " ++ ·) found fun tenant =>
  require tenant.active "tenant inactive" <|
  let allowed := env.allowTenant (Text.uuid tenant.id) (tenantLimit tenant)
  record (.allowTenant (Text.uuid tenant.id) (tenantLimit tenant) allowed) <|
  require allowed "rate limit exceeded for tenant" <|
  onOk id (env.newStruct request.sessionState) fun sessionState =>
  let state := env.reconstructSession request.sessionId (Text.uuid tenant.id)
  record (.reconstructSession request.sessionId (Text.uuid tenant.id) state) <|
  onOk ("session reconstruction failed: " ++ ·) state fun state =>
  let client := env.getClient tenant.endpoint
  record (.getClient tenant.endpoint client) <|
  onOk ("tenant client connection failed: " ++ ·) client fun _ =>
  let message := menuRequest request tenant (state.getD sessionState)
  record (.handleMenu message (env.handleMenu message)) <|
  onOk ("tenant handle menu failed: " ++ ·) (env.handleMenu message) fun menu =>
  (.ok (tenant, menu), [])

def menuFor (env : RouteEnv) (request : RouteRequest) :
    Except String (Tenant × MenuResponse) :=
  (menuCalls env request).1

/-! ### The payment -/

def menuReply (menu : MenuResponse) : RouteResponse where
  menuText := menu.message
  options := menu.options
  nextMenu := menu.nextMenu
  updatedState := menu.updatedState.getD []
  endSession := menu.type = .endType
  paymentInitiated := false
  paymentId := ""
  providerReference := ""
  paymentStatus := ""

def initiateMessage (request : RouteRequest) (tenant : Tenant)
    (payment : PaymentRequest) : InitiatePaymentRequest where
  paymentId := ""
  tenantId := Text.uuid tenant.id
  sessionId := request.sessionId
  provider := parseProvider payment.provider
  phoneNumber :=
    if payment.phoneNumber = "" then request.phoneNumber
    else payment.phoneNumber
  amount := payment.amount
  reference := payment.reference
  description := payment.description
  idempotencyKey := some (request.sessionId ++ "-" ++ payment.reference)

/-- The breaker of the router, and the payment engine. -/
structure RouterState where
  breaker : CircuitBreaker
  world : World

inductive PaymentOutcome
  | circuitOpen
  | failed
  | initiated (response : InitiatePaymentResponse)

/-- The response with what became of the payment. -/
def RouteResponse.withPayment (reply : RouteResponse) :
    PaymentOutcome → RouteResponse
  | .circuitOpen =>
      { reply with
        paymentInitiated := false
        paymentStatus := "CIRCUIT_OPEN"
        menuText := reply.menuText ++ "\n(Payment temporarily unavailable)" }
  | .failed =>
      { reply with
        paymentInitiated := false
        paymentStatus := "FAILED"
        menuText := reply.menuText ++ "\n(Payment initiation failed)" }
  | .initiated response =>
      { reply with
        paymentInitiated := true
        paymentId := response.paymentId
        providerReference := response.providerReference
        paymentStatus := statusName (some response.status) }

/-- A call of `InitiatePayment`; what else it changes is in a state. -/
abbrev Initiate (State : Type) :=
  State → Except String InitiatePaymentResponse × State

def outcomeOf : Except String InitiatePaymentResponse → PaymentOutcome
  | .error _ => .failed
  | .ok response => .initiated response

/-- The breaker after the payment. -/
def breakerAfter (env : RouteEnv) (breaker : CircuitBreaker) :
    Except String InitiatePaymentResponse → CircuitBreaker
  | .error _ => breaker.recordFailure env.failedAt
  | .ok _ => breaker.recordSuccess

section Client

variable {State : Type} (env : RouteEnv) (breaker : CircuitBreaker)
  (state : State)

/-- The payment, if the breaker allows it. -/
def payWith (initiate : Initiate State) :
    PaymentOutcome × CircuitBreaker × State :=
  let allowed := breaker.allow env.allowAt env.recheckAt
  if allowed.1 then
    let answer := initiate state
    (outcomeOf answer.1, breakerAfter env allowed.2 answer.1, answer.2)
  else (.circuitOpen, allowed.2, state)

/-- `RouteRequest`, of a router with or without a payment client. -/
def routeWith (paymentCli : Option (InitiatePaymentRequest → Initiate State))
    (request : RouteRequest) :
    Except String RouteResponse × CircuitBreaker × State :=
  match menuFor env request with
  | .error error => (.error error, breaker, state)
  | .ok (tenant, menu) =>
      match menu.payment, paymentCli with
      | some payment, some initiate =>
          let answer := payWith env breaker state
            (initiate (initiateMessage request tenant payment))
          (.ok ((menuReply menu).withPayment answer.1), answer.2)
      | _, _ => (.ok (menuReply menu), breaker, state)

variable {env breaker state} {initiate : Initiate State}

theorem payWith_of_refused
    (hrefused : (breaker.allow env.allowAt env.recheckAt).1 = false) :
    payWith env breaker state initiate = (.circuitOpen, breaker, state) := by
  simp only [payWith, hrefused, allow_of_refused hrefused]
  rfl

theorem payWith_of_allowed
    (hallowed : (breaker.allow env.allowAt env.recheckAt).1 = true) :
    payWith env breaker state initiate =
      (outcomeOf (initiate state).1,
        breakerAfter env (breaker.allow env.allowAt env.recheckAt).2
          (initiate state).1,
        (initiate state).2) := by
  simp only [payWith, hallowed, if_true]

end Client

section Route

variable [DecimalText] (parseStr : String → Option Uuid)

def pay (env : RouteEnv) (message : InitiatePaymentRequest)
    (state : RouterState) : PaymentOutcome × RouterState :=
  let answer := payWith env state.breaker state.world
    (callInitiatePayment parseStr env.services message)
  (answer.1, ⟨answer.2.1, answer.2.2⟩)

def routeRequest (env : RouteEnv) (request : RouteRequest)
    (state : RouterState) : Except String RouteResponse × RouterState :=
  let answer := routeWith env state.breaker state.world
    (some (callInitiatePayment parseStr env.services)) request
  (answer.1, ⟨answer.2.1, answer.2.2⟩)

/-! ## Histories -/

/-- A call of `RouteRequest`; the calls marked `extra` are those that may be
missing in another history. -/
structure Call where
  env : RouteEnv
  request : RouteRequest
  extra : Bool

/-- The message with which the call comes to the breaker. -/
def Call.message (call : Call) : Option InitiatePaymentRequest :=
  match menuFor call.env call.request with
  | .ok (tenant, menu) => menu.payment.map (initiateMessage call.request tenant)
  | .error _ => none

/-- The call is one of the tenant. -/
def ofTenant (tenantId : Uuid) (call : Call) : Bool :=
  match call.env.getByServiceCode call.request.serviceCode with
  | .ok tenant => tenant.id = tenantId
  | .error _ => false

/-- The call may be missing, and is not one of the tenant. -/
def foreign (tenantId : Uuid) (call : Call) : Bool :=
  call.extra && !ofTenant tenantId call

/-- The router, and the number of failures since the last success that foreign
calls have caused. -/
structure System where
  router : RouterState
  missed : ℕ

/-- The number after a call with this outcome. -/
def count (tenantId : Uuid) (call : Call) (missed : ℕ) : PaymentOutcome → ℕ
  | .circuitOpen => missed
  | .failed => if foreign tenantId call then missed + 1 else missed
  | .initiated _ => 0

def serve (tenantId : Uuid) (system : System) (call : Call) : System where
  router := (routeRequest parseStr call.env call.request system.router).2
  missed := call.message.elim system.missed fun message =>
    count tenantId call system.missed
      (pay parseStr call.env message system.router).1

/-- Whether the breaker allows the payment of the call, if it has one. -/
def decision (system : System) (call : Call) : Option Bool :=
  call.message.map fun _ =>
    (system.router.breaker.allow call.env.allowAt call.env.recheckAt).1

/-- The payment engine rejects the message with one of these codes before it
asks the provider. -/
structure RejectedForItself (env : InitiateEnv)
    (message : InitiatePaymentRequest) (world : World) : Prop where
  rejected : ∃ status,
    (initiatePayment parseStr env message world).1 = .error status ∧
      (status.code = .invalidArgument ∨ status.code = .alreadyExists)
  notReached : ∀ command, initiateCommand parseStr env message = .ok command →
    ∀ payment, ¬ InitiatePaymentHandler.Reaches env.handler command world payment

/-- A foreign call brings a message to the breaker that the payment engine
rejects for what it is. -/
def ForeignRejected (tenantId : Uuid) (system : System) (call : Call) : Prop :=
  foreign tenantId call = true →
    call.env.services.delivery = .delivered ∧ ∃ message,
      call.message = some message ∧
        RejectedForItself parseStr call.env.services.initiate message
          system.router.world

/-- No foreign call comes through that opens the breaker, and none is among the
failures with which another call opens it. -/
def Harmless (tenantId : Uuid) (system : System) (call : Call) : Prop :=
  ∀ message ∈ call.message,
    (system.router.breaker.allow call.env.allowAt call.env.recheckAt).1 = true →
      if foreign tenantId call then
        system.router.breaker.state = .stateClosed ∧
          system.router.breaker.full = false
      else
        system.router.breaker.state = .stateClosed →
          system.router.breaker.full = true →
            (callInitiatePayment parseStr call.env.services message
              system.router.world).1.isOk = false → system.missed = 0

instance (tenantId : Uuid) (system : System) (call : Call) :
    Decidable (Harmless parseStr tenantId system call) :=
  inferInstanceAs (Decidable (∀ message ∈ call.message, _))

/-- A router before its first call. -/
def System.start (router : RouterState) : System where
  router
  missed := 0

/-! ## One call -/

variable {parseStr} {tenantId : Uuid}
  {call : Call} {message : InitiatePaymentRequest}

/-- A call without a payment leaves the router, and another one leaves what its
payment leaves. -/
theorem state_routeRequest (state : RouterState) :
    (routeRequest parseStr call.env call.request state).2 =
      call.message.elim state fun message =>
        (pay parseStr call.env message state).2 := by
  unfold routeRequest routeWith Call.message
  cases menuFor call.env call.request with
  | error error => rfl
  | ok found =>
      obtain ⟨tenant, menu⟩ := found
      dsimp only
      cases menu.payment <;> rfl

variable {system : System}

theorem serve_of_none (hmessage : call.message = none) :
    serve parseStr tenantId system call = system := by
  rw [serve, state_routeRequest, hmessage]
  rfl

theorem serve_of_message (hmessage : call.message = some message) :
    serve parseStr tenantId system call =
      { router := (pay parseStr call.env message system.router).2
        missed := count tenantId call system.missed
          (pay parseStr call.env message system.router).1 } := by
  rw [serve, state_routeRequest, hmessage]
  rfl

variable {env : RouteEnv} {state : RouterState}

theorem pay_of_refused
    (hrefused : (state.breaker.allow env.allowAt env.recheckAt).1 = false) :
    pay parseStr env message state = (.circuitOpen, state) := by
  rw [pay, payWith_of_refused hrefused]

theorem pay_of_allowed
    (hallowed : (state.breaker.allow env.allowAt env.recheckAt).1 = true) :
    pay parseStr env message state =
      (outcomeOf (callInitiatePayment parseStr env.services message
          state.world).1,
        { breaker := breakerAfter env
            (state.breaker.allow env.allowAt env.recheckAt).2
            (callInitiatePayment parseStr env.services message state.world).1
          world := (callInitiatePayment parseStr env.services message
            state.world).2 }) := by
  rw [pay, payWith_of_allowed hallowed]

/-- A message that is rejected for what it is changes nothing in the payment
engine. -/
theorem call_of_rejected {env : HandlerEnv} {world : World}
    (hdelivery : env.delivery = .delivered)
    (hrejected : RejectedForItself parseStr env.initiate message world) :
    ∃ error, callInitiatePayment parseStr env message world =
      (.error error, world) := by
  obtain ⟨status, hstatus, -⟩ := hrejected.rejected
  have hworld : (initiatePayment parseStr env.initiate message world).2 =
      world := by
    cases hcommand : initiateCommand parseStr env.initiate message with
    | error refusal => simp only [initiatePayment, hcommand]
    | ok command =>
        have hafter := InitiatePaymentHandler.worldAfter_of_not_reaches
          (hrejected.notReached command hcommand)
        simp only [initiatePayment, hcommand]
        split <;> exact hafter
  refine ⟨rpcError status, ?_⟩
  simp only [callInitiatePayment, hdelivery, hstatus, hworld]

/-- A message with a bad argument is rejected whatever payments there are. -/
theorem foreignRejected_of_command {status : PaymentEngine.Status}
    (hdelivery : call.env.services.delivery = .delivered)
    (hmessage : call.message = some message)
    (hcommand : initiateCommand parseStr call.env.services.initiate message =
      .error status)
    (hcode : status.code = .invalidArgument) (system : System) :
    ForeignRejected parseStr tenantId system call := by
  intro _
  have hrejected : (initiatePayment parseStr call.env.services.initiate message
      system.router.world).1 = .error status := by
    rw [initiatePayment, hcommand]
  refine ⟨hdelivery, message, hmessage, ⟨status, hrejected, .inl hcode⟩, ?_⟩
  intro command hok
  rw [hcommand] at hok
  cases hok

theorem foreignRejected_of_not_foreign (hforeign : foreign tenantId call = false)
    (system : System) : ForeignRejected parseStr tenantId system call := by
  intro htrue
  rw [hforeign] at htrue
  cases htrue

/-! ## Two histories -/

variable {first second : System}

/-- The second router has missed the failures of the foreign calls. -/
structure Agree (first second : System) : Prop where
  world : first.router.world = second.router.world
  breaker : Sees first.missed first.router.breaker second.router.breaker

/-- A foreign call that does not open the breaker is only counted. -/
theorem Agree.removed (hagree : Agree first second)
    (hforeign : foreign tenantId call = true)
    (hrejected : ForeignRejected parseStr tenantId first call)
    (hharmless : Harmless parseStr tenantId first call) :
    Agree (serve parseStr tenantId first call) second := by
  obtain ⟨hdelivery, message, hmessage, hitself⟩ := hrejected hforeign
  rw [serve_of_message hmessage]
  cases hallowed : (first.router.breaker.allow call.env.allowAt
      call.env.recheckAt).1 with
  | false =>
      rw [pay_of_refused hallowed]
      exact hagree
  | true =>
      have hclosed := hharmless message hmessage hallowed
      rw [if_pos hforeign] at hclosed
      obtain ⟨error, hanswer⟩ := call_of_rejected hdelivery hitself
      rw [pay_of_allowed hallowed, hanswer, allow_of_closed hclosed.1]
      refine ⟨hagree.world, ?_⟩
      simp only [outcomeOf, count, if_pos hforeign]
      exact hagree.breaker.recordFailure_missed call.env.failedAt hclosed.1
        hclosed.2

/-- A call that is not foreign finds both breakers alike and keeps them so. -/
theorem Agree.kept (hagree : Agree first second)
    (hforeign : foreign tenantId call = false)
    (hharmless : Harmless parseStr tenantId first call) :
    decision first call = decision second call ∧
      Agree (serve parseStr tenantId first call)
        (serve parseStr tenantId second call) := by
  obtain ⟨hsame, hsees⟩ :=
    hagree.breaker.allow call.env.allowAt call.env.recheckAt
  refine ⟨by rw [decision, decision, hsame], ?_⟩
  cases hmessage : call.message with
  | none =>
      rw [serve_of_none hmessage, serve_of_none hmessage]
      exact hagree
  | some message =>
      rw [serve_of_message hmessage, serve_of_message hmessage]
      cases hallowed : (first.router.breaker.allow call.env.allowAt
          call.env.recheckAt).1 with
      | false =>
          have hsecond := hsame.symm.trans hallowed
          rw [pay_of_refused hallowed, pay_of_refused hsecond]
          exact hagree
      | true =>
          have hsecond := hsame.symm.trans hallowed
          rw [pay_of_allowed hallowed, pay_of_allowed hsecond, ← hagree.world]
          cases hanswer : (callInitiatePayment parseStr call.env.services
              message first.router.world).1 with
          | error error =>
              refine ⟨rfl, ?_⟩
              simp only [outcomeOf, count, hforeign, Bool.false_eq_true,
                if_false]
              apply hsees.recordFailure
              intro hclosed hfull
              obtain ⟨hbefore, hunchanged⟩ := closed_of_allow hclosed
              rw [hunchanged] at hfull
              have hcount := hharmless message hmessage hallowed
              simp only [hforeign, Bool.false_eq_true, if_false] at hcount
              apply hcount hbefore hfull
              rw [hanswer]
              rfl
          | ok response => exact ⟨rfl, hsees.recordSuccess⟩

/-- Two histories that differ only in requests of other tenants that the payment
engine rejects for what they are let the same payments of the tenant through, if
none of these requests opens the breaker and none is among the failures with
which it opens. -/
theorem breaker_decisions_eq {history other : List Call} {router : RouterState}
    (hcommon : history.filter (fun call => !foreign tenantId call) =
      other.filter (fun call => !foreign tenantId call))
    (hhistory : Along (serve parseStr tenantId)
      (fun system call _ => ForeignRejected parseStr tenantId system call)
      history (.start router))
    (hother : Along (serve parseStr tenantId)
      (fun system call _ => ForeignRejected parseStr tenantId system call)
      other (.start router))
    (hharmless : Along (serve parseStr tenantId)
      (fun system call _ => Harmless parseStr tenantId system call)
      history (.start router))
    (hharmlessOther : Along (serve parseStr tenantId)
      (fun system call _ => Harmless parseStr tenantId system call)
      other (.start router)) :
    outputs (serve parseStr tenantId) decision (ofTenant tenantId) history
        (.start router) =
      outputs (serve parseStr tenantId) decision (ofTenant tenantId) other
        (.start router) := by
  have hunwinding : Unwinding (serve parseStr tenantId) decision
      (ofTenant tenantId) (fun call => !foreign tenantId call)
      (fun system call _ => ForeignRejected parseStr tenantId system call ∧
        Harmless parseStr tenantId system call)
      (fun _ => Agree) :=
    { observed_kept := fun call htenant => by simp [foreign, htenant]
      removed := fun hremoved hcondition hagree =>
        hagree.removed (by simpa using hremoved) hcondition.1 hcondition.2
      kept := fun hkept hcondition hagree =>
        have hstep := hagree.kept (by simpa using hkept) hcondition.2
        ⟨fun _ => hstep.1, hstep.2⟩ }
  exact hunwinding.outputs_eq hcommon (hhistory.and hharmless)
    (hother.and hharmlessOther) fun _ => ⟨rfl, .refl _⟩

end Route

namespace Samples

open PaymentEngine.Samples (noPayments reliable world)

/-- `Uuid::parse_str` on the tenants of the sample. -/
def parseStr (text : String) : Option Uuid :=
  [2, 5].find? fun id => Text.uuid id = text

def tenant (id : Uuid) : Tenant where
  id
  endpoint := "tenant:50051"
  active := true
  rateLimitRPS := 0

def ten (provider : String) : PaymentRequest where
  provider
  amount := some { amountCents := 1000, currencyCode := "USD" }
  reference := "REF-001"
  description := ""
  phoneNumber := ""

/-- A payment at this second, which a provider that it is given to accepts. -/
def payment (extra : Bool) (tenantId : Uuid) (provider : String) (second : ℕ) :
    Call where
  extra
  request :=
    { sessionId := "s-1"
      phoneNumber := "2637123456789"
      userInput := "1"
      currentMenu := "pay"
      serviceCode := "*123#"
      sessionState := [] }
  env :=
    { allow := fun _ _ => true
      getByServiceCode := fun _ => .ok (tenant tenantId)
      allowTenant := fun _ _ => true
      newStruct := .ok
      reconstructSession := fun _ _ => .ok none
      getClient := fun _ => .ok ()
      handleMenu := fun _ => .ok
        { type := .endType
          message := "Thank you"
          options := []
          nextMenu := ""
          updatedState := none
          payment := some (ten provider) }
      services :=
        { initiate :=
            { newId := 1
              handler :=
                { reliable with
                  charged := fun _ => true
                  reply := fun _ => .ok
                    { providerReference := "MP-1"
                      status := .pending
                      message := none } } }
          query := reliable
          delivery := .delivered
          session := .error "unavailable" }
      allowAt := second * 1000000000
      recheckAt := second * 1000000000
      failedAt := second * 1000000000 }

/-- The payment of tenant 2. -/
def own : Call := payment false 2 "ecocash" 10

/-- A payment of tenant 5 with a provider that the payment engine does not
support. -/
def unsupported (second : ℕ) : Call := payment true 5 "mtn_momo" second

def router : RouterState where
  breaker := newCircuitBreaker
  world := world noPayments

open scoped PaymentEngine.Samples

/-- Whether the payments of tenant 2 are allowed in a history. -/
def decisions (history : List Call) : List (Option Bool) :=
  outputs (serve parseStr 2) decision (ofTenant 2) history (.start router)

theorem own_foreignRejected (system : System) :
    ForeignRejected parseStr 2 system own :=
  foreignRejected_of_not_foreign rfl system

theorem unsupported_foreignRejected (second : ℕ) (system : System) :
    ForeignRejected parseStr 2 system (unsupported second) := by
  have hmessage : (unsupported second).message = some
      (initiateMessage (unsupported second).request (tenant 5)
        (ten "mtn_momo")) := by
    have hphone : phoneRegex "2637123456789" = true := by decide +kernel
    simp only [Call.message, menuFor, menuCalls, require, unsupported, payment,
      hphone]
    rfl
  have hcommand : initiateCommand parseStr
      (unsupported second).env.services.initiate
      (initiateMessage (unsupported second).request (tenant 5)
        (ten "mtn_momo")) =
      .error ⟨.invalidArgument, "Unsupported provider: 4"⟩ := by
    have htenant : parseStr (Text.uuid 5) = some 5 := by decide +kernel
    simp only [initiateCommand, initiateMessage, tenant, PaymentEngine.parseUuid,
      htenant]
    rfl
  exact foreignRejected_of_command rfl hmessage hcommand rfl system

end Samples

open scoped PaymentEngine.Samples in
/-- One rejected payment of tenant 5 leaves the breaker closed. -/
theorem breaker_decisions_eq_one_rejected :
    Samples.decisions [Samples.unsupported 1, Samples.own] =
      Samples.decisions [Samples.own] := by
  exact breaker_decisions_eq rfl
    ⟨Samples.unsupported_foreignRejected 1 _, Samples.own_foreignRejected _,
      trivial⟩
    ⟨Samples.own_foreignRejected _, trivial⟩ (by decide +kernel)
    (by decide +kernel)

open scoped PaymentEngine.Samples in
/-- Five rejected payments of tenant 5 open the breaker for tenant 2. -/
theorem foreign_rejections_refuse_payment :
    let foreignCalls := [1, 2, 3, 4, 5].map Samples.unsupported
    (∀ system, ∀ call ∈ foreignCalls,
      ForeignRejected Samples.parseStr 2 system call) ∧
      foreignCalls.all (foreign 2) = true ∧
        Samples.decisions (foreignCalls ++ [Samples.own]) = [some false] ∧
          Samples.decisions [Samples.own] = [some true] := by
  refine ⟨?_, by decide, by decide +kernel, by decide +kernel⟩
  intro system call hmem
  obtain ⟨second, -, rfl⟩ := List.mem_map.mp hmem
  exact Samples.unsupported_foreignRejected second system

end UssdKernel.Routing
