import UssdKernel.Core.Data
import UssdKernel.Core.Results

/-!
# The payment aggregate

`Payment` and its transitions as the payment engine defines them.  A method
that takes `&mut self` returns the updated payment; on `Err` the caller keeps
the old one.  `Utc::now()` is an argument of every method that reads the
clock.
-/

namespace UssdKernel.PaymentEngine

/-- Microseconds since the Unix epoch, the resolution of a stored
timestamp. -/
abbrev DateTime := ℤ

/-- A `rust_decimal` number: a 96-bit mantissa with sign and a scale of at most
28 decimal places. -/
structure Decimal where
  mantissa : ℤ
  scale : ℕ
  mantissa_lt : mantissa.natAbs < 2 ^ 96
  scale_le : scale ≤ 28
  deriving DecidableEq

/-- `amount <= Decimal::ZERO`. -/
def Decimal.nonPositive (value : Decimal) : Bool :=
  value.mantissa ≤ 0

inductive MobileMoneyProvider
  | ecoCash
  | oneMoney
  | telecash
  deriving DecidableEq

def MobileMoneyProvider.asStr : MobileMoneyProvider → String
  | ecoCash => "ecocash"
  | oneMoney => "onemoney"
  | telecash => "telecash"

inductive ProviderStatus
  | pending
  | processing
  | completed
  | failed
  | cancelled
  | refunded
  | unknown
  deriving DecidableEq

inductive PaymentStatus
  | pending
  | processing
  | completed
  | failed
  | cancelled
  | refunded
  deriving DecidableEq

def PaymentStatus.asStr : PaymentStatus → String
  | pending => "pending"
  | processing => "processing"
  | completed => "completed"
  | failed => "failed"
  | cancelled => "cancelled"
  | refunded => "refunded"

inductive DomainError
  | invalidPhoneNumber (value : String)
  | invalidAmount (message : String)
  | invalidReference (message : String)
  | providerError (message : String)
  | idempotencyViolation
  | notFound (message : String)
  | invalidStatusTransition (source target : String)
  | databaseError (message : String)
  deriving DecidableEq

/-- The `Display` texts. -/
def DomainError.toText : DomainError → String
  | invalidPhoneNumber value => "Invalid phone number: " ++ value
  | invalidAmount message => "Invalid amount: " ++ message
  | invalidReference message => "Invalid reference: " ++ message
  | providerError message => "Provider error: " ++ message
  | idempotencyViolation => "Idempotency violation"
  | notFound message => "Not found: " ++ message
  | invalidStatusTransition source target =>
      "Invalid status transition from " ++ source ++ " to " ++ target
  | databaseError message => "Database error: " ++ message

structure ProviderResponse where
  providerReference : String
  status : ProviderStatus
  message : Option String
  deriving DecidableEq

structure Payment where
  paymentId : Uuid
  tenantId : Uuid
  idempotencyKey : String
  provider : MobileMoneyProvider
  phoneNumber : String
  amount : Decimal
  currency : String
  reference : String
  description : String
  status : PaymentStatus
  providerReference : Option String
  failureReason : Option String
  initiatedAt : DateTime
  completedAt : Option DateTime
  deriving DecidableEq

/-! ## Validation -/

/-- Unicode `White_Space`, the characters `str::trim` removes. -/
def isWhitespace (c : Char) : Bool :=
  (9 ≤ c.toNat && c.toNat ≤ 13) || c.toNat == 0x20 || c.toNat == 0x85 ||
    c.toNat == 0xA0 || c.toNat == 0x1680 ||
    (0x2000 ≤ c.toNat && c.toNat ≤ 0x200A) || c.toNat == 0x2028 ||
    c.toNat == 0x2029 || c.toNat == 0x202F || c.toNat == 0x205F ||
    c.toNat == 0x3000

/-- `text.trim().is_empty()`. -/
def trimIsEmpty (text : String) : Bool :=
  text.toList.all isWhitespace

/-- How decimals are written: `to_string` and `parse` of `rust_decimal`, and the
decimal digits that `\d` matches in the Unicode version of the `regex` crate. -/
class DecimalText where
  toText : Decimal → String
  parse : String → Except String Decimal
  isDecimalDigit : Char → Bool

/-- `^2637[1378]\d{8}$`, with the digits that `\d` matches. -/
def phonePattern (isDigit : Char → Bool) (text : String) : Bool :=
  match text.toList with
  | '2' :: '6' :: '3' :: '7' :: operator :: digits =>
      ['1', '3', '7', '8'].contains operator && digits.length == 8 &&
        digits.all isDigit
  | _ => false

section New

variable [DecimalText]

def phoneRe : String → Bool := phonePattern DecimalText.isDecimalDigit

/-- The checks of `Payment::new` and `Payment::validate`, in order. -/
def validate (phoneNumber : String) (amount : Decimal) (reference : String) :
    Except DomainError Unit :=
  if amount.nonPositive then
    .error (.invalidAmount "Amount must be greater than zero")
  else if trimIsEmpty reference then
    .error (.invalidReference "Reference must not be empty")
  else if !phoneRe phoneNumber then
    .error (.invalidPhoneNumber phoneNumber)
  else .ok ()

def Payment.new (paymentId tenantId : Uuid) (idempotencyKey : String)
    (provider : MobileMoneyProvider) (phoneNumber : String) (amount : Decimal)
    (currency reference description : String) (now : DateTime) :
    Except DomainError Payment := do
  validate phoneNumber amount reference
  .ok
    { paymentId, tenantId, idempotencyKey, provider, phoneNumber, amount,
      currency, reference, description
      status := .pending
      providerReference := none
      failureReason := none
      initiatedAt := now
      completedAt := none }

/-- An accepted payment is Pending with the given fields. -/
theorem Payment.eq_of_new_eq_ok {paymentId tenantId : Uuid}
    {idempotencyKey : String} {provider : MobileMoneyProvider}
    {phoneNumber : String} {amount : Decimal}
    {currency reference description : String} {now : DateTime}
    {payment : Payment}
    (hnew : Payment.new paymentId tenantId idempotencyKey provider phoneNumber
      amount currency reference description now = .ok payment) :
    payment =
      { paymentId, tenantId, idempotencyKey, provider, phoneNumber, amount,
        currency, reference, description
        status := .pending
        providerReference := none
        failureReason := none
        initiatedAt := now
        completedAt := none } := by
  obtain ⟨_, -, hpayment⟩ := Results.bind_eq_ok.mp hnew
  exact (Except.ok.inj hpayment).symm

end New

/-! ## Transitions -/

/-- Neither settled nor abandoned. -/
def PaymentStatus.isOpen : PaymentStatus → Bool
  | pending | processing => true
  | _ => false

/-- Move to `target` and apply `update`, if the current status permits it. -/
def Payment.transition (permitted : PaymentStatus → Bool)
    (target : PaymentStatus) (update : Payment → Payment)
    (payment : Payment) : Except DomainError Payment :=
  if permitted payment.status then
    .ok (update { payment with status := target })
  else
    .error (.invalidStatusTransition payment.status.asStr target.asStr)

def Payment.markProcessing : Payment → Except DomainError Payment :=
  transition PaymentStatus.isOpen .processing id

def Payment.markCompleted (now : DateTime) (providerRef : String) :
    Payment → Except DomainError Payment :=
  transition PaymentStatus.isOpen .completed fun payment =>
    { payment with
      providerReference := some providerRef
      completedAt := some now }

def Payment.markFailed (now : DateTime) (reason : String) :
    Payment → Except DomainError Payment :=
  transition PaymentStatus.isOpen .failed fun payment =>
    { payment with
      failureReason := some reason
      completedAt := some now }

def Payment.markRefunded (now : DateTime) :
    Payment → Except DomainError Payment :=
  transition (· = .completed) .refunded fun payment =>
    { payment with completedAt := some now }

/-- `let _ = ...`: a refused transition leaves the payment as it was. -/
def Payment.orKeep (payment : Payment) :
    Except DomainError Payment → Payment
  | .ok updated => updated
  | .error _ => payment

def Payment.applyProviderStatus (now : DateTime) (status : ProviderStatus)
    (providerRef : Option String) (payment : Payment) : Payment :=
  match status with
  | .completed => payment.orKeep (payment.markCompleted now (providerRef.getD ""))
  | .failed => payment.orKeep (payment.markFailed now "Provider reported failure")
  | .cancelled =>
      if payment.status = .pending ∨ payment.status = .processing then
        { payment with status := .cancelled, completedAt := some now }
      else payment
  | .refunded => payment.orKeep (payment.markRefunded now)
  | .processing => payment.orKeep payment.markProcessing
  | .pending | .unknown => payment

/-! ## The status machine -/

namespace PaymentStatus

/-- Completed, Failed, Cancelled and Refunded. -/
def isTerminal (status : PaymentStatus) : Bool :=
  !status.isOpen

/-- What a provider status does to a payment status. -/
def next (status : PaymentStatus) : ProviderStatus → PaymentStatus
  | .completed => if status.isOpen then .completed else status
  | .failed => if status.isOpen then .failed else status
  | .cancelled => if status.isOpen then .cancelled else status
  | .refunded => if status = .completed then .refunded else status
  | .processing => if status.isOpen then .processing else status
  | .pending | .unknown => status

/-- A settled status stays, except that a completed payment may be
refunded. -/
def Settles (before after : PaymentStatus) : Prop :=
  before.isTerminal = true →
    after = before ∨ (before = .completed ∧ after = .refunded)

theorem Settles.refl (status : PaymentStatus) : Settles status status :=
  fun _ => Or.inl rfl

theorem Settles.trans {first second third : PaymentStatus}
    (hfirst : Settles first second) (hsecond : Settles second third) :
    Settles first third := by
  intro hterminal
  rcases hfirst hterminal with rfl | ⟨rfl, rfl⟩
  · exact hsecond hterminal
  · have hthird := hsecond rfl
    simp_all

theorem settles_next (status : PaymentStatus) (reported : ProviderStatus) :
    Settles status (status.next reported) := by
  cases status <;> cases reported <;> simp [Settles, next, isTerminal, isOpen]

/-- Unless a refund is reported, Completed is entered from an open status by
the report of it, and kept. -/
theorem next_eq_completed_iff {status : PaymentStatus}
    {reported : ProviderStatus} (hreported : reported ≠ .refunded) :
    status.next reported = .completed ↔
      status = .completed ∨ status.isOpen = true ∧ reported = .completed := by
  cases status <;> cases reported <;> simp_all [next, isOpen]

theorem asStr_injective : Function.Injective asStr := by
  intro left right heq
  cases left <;> cases right <;> first | rfl | simp [asStr] at heq

end PaymentStatus

theorem Payment.status_applyProviderStatus (now : DateTime)
    (reported : ProviderStatus) (providerRef : Option String)
    (payment : Payment) :
    (payment.applyProviderStatus now reported providerRef).status =
      payment.status.next reported := by
  cases reported <;> cases hstatus : payment.status <;>
    simp [applyProviderStatus, markCompleted, markFailed, markRefunded,
      markProcessing, transition, orKeep, PaymentStatus.next,
      PaymentStatus.isOpen, hstatus]

end UssdKernel.PaymentEngine
