import UssdKernel.Orchestrator.StepHandler

/-!
# The assertions of a step

The step handler over whatever its clients answer.  Before it calls a client,
it asserts the types of the payload's fields, and a failed assertion panics: so
whether a step panics depends on its payload alone.
-/

namespace UssdKernel.SagaServer

open Orchestrator

theorem passOn_ne_panic {A : Type} (wrap : String → String)
    (output : A → StepMap) (answer : Except String A) :
    passOn wrap output answer ≠ .error .panic := by
  cases answer <;> simp [passOn]

theorem fst_executeInitiatePayment {State : Type} (clients : Clients State)
    (input : Option StepMap) (state : State) :
    (clients.executeInitiatePayment input state).1 = (do
      let request ← initiateRequest input
      passOn ("payment initiation failed: " ++ ·) initiateOutput
        (clients.initiatePayment request state).1) := by
  rw [Clients.executeInitiatePayment]
  cases initiateRequest input <;> rfl

/-! ## When a step panics -/

section Assertions

/-- The computation returns a value if the condition holds, and otherwise
panics. -/
def PanicsUnless {A : Type} :
    (condition : Bool) → (result : Except StepFailure A) → Prop
  | true, result => ∃ value, result = .ok value
  | false, result => result = .error .panic

section Bind

variable {A B : Type} {first second : Bool} {result : Except StepFailure A}
  {next : A → Except StepFailure B}

section Bind

variable (hfirst : PanicsUnless first result)
include hfirst

theorem PanicsUnless.bind
    (hsecond : ∀ value, PanicsUnless second (next value)) :
    PanicsUnless (first && second) (result >>= next) := by
  cases first with
  | false =>
      have hpanic : result = .error .panic := hfirst
      rw [hpanic]
      rfl
  | true =>
      obtain ⟨value, hvalue⟩ : ∃ value, result = .ok value := hfirst
      rw [hvalue]
      exact hsecond value

/-- Only the assertion can fail. -/
theorem PanicsUnless.bind_ok (hnext : ∀ value, PanicsUnless true (next value)) :
    PanicsUnless first (result >>= next) := by
  have hbind := hfirst.bind hnext
  rwa [Bool.and_true] at hbind

theorem PanicsUnless.bind_eq_panic_iff
    (hnext : ∀ value, next value = .error .panic ↔ second = false) :
    (result >>= next) = .error .panic ↔ (first && second) = false := by
  cases first with
  | false =>
      have hpanic : result = .error .panic := hfirst
      rw [hpanic]
      exact iff_of_true rfl rfl
  | true =>
      obtain ⟨value, hvalue⟩ : ∃ value, result = .ok value := hfirst
      rw [hvalue]
      exact hnext value

/-- Only the assertion panics. -/
theorem PanicsUnless.bind_eq_panic_iff_of_ne
    (hnext : ∀ value, next value ≠ .error .panic) :
    (result >>= next) = .error .panic ↔ first = false := by
  have hbind : (result >>= next) = .error .panic ↔ (first && true) = false :=
    hfirst.bind_eq_panic_iff fun value =>
      iff_of_false (hnext value) Bool.noConfusion
  rwa [Bool.and_true] at hbind

end Bind

end Bind

section Input

variable (input : Option StepMap)

/-- The map holds a text under the key. -/
def hasText (key : String) : Bool :=
  match (input.getD []).lookup key with
  | some (.string _) => true
  | _ => false

/-- The map holds a number as the amount, or no amount. -/
def hasAmount : Bool :=
  match (input.getD []).lookup "amount_cents" with
  | none => true
  | some (.number _) => true
  | some _ => false

theorem panics_textOf (key : String) :
    PanicsUnless (hasText input key) (textOf input key) := by
  unfold hasText textOf
  cases (input.getD []).lookup key with
  | none => exact rfl
  | some value =>
      cases value with
      | string text => exact ⟨text, rfl⟩
      | _ => exact rfl

theorem panics_amountCents :
    PanicsUnless (hasAmount input) (amountCents input) := by
  unfold hasAmount amountCents
  cases (input.getD []).lookup "amount_cents" with
  | none => exact ⟨0, rfl⟩
  | some value =>
      cases value with
      | number amount => exact ⟨truncate amount, rfl⟩
      | _ => exact rfl

/-- The input of an `InitiatePayment` step has the fields that it asserts. -/
def hasRequest : Bool :=
  hasAmount input && (hasText input "tenant_id" &&
    (hasText input "session_id" && (hasText input "phone_number" &&
      (hasText input "reference" && hasText input "idempotency_key"))))

theorem panics_initiateRequest :
    PanicsUnless (hasRequest input) (initiateRequest input) := by
  apply (panics_amountCents input).bind
  intro cents
  apply (panics_textOf input "tenant_id").bind
  intro tenantId
  apply (panics_textOf input "session_id").bind
  intro sessionId
  apply (panics_textOf input "phone_number").bind
  intro phoneNumber
  apply (panics_textOf input "reference").bind
  intro reference
  apply (panics_textOf input "idempotency_key").bind_ok
  intro idempotencyKey
  exact ⟨_, rfl⟩

end Input

/-- What a step hands to the assertions. -/
structure Asserted where
  service : String
  action : String
  input : Option StepMap

/-- The input has the fields that the action asserts, with their types. -/
def Asserted.wellTyped (step : Asserted) : Bool :=
  match step.service with
  | "payment" =>
      match step.action with
      | "InitiatePayment" => hasRequest step.input
      | "GetPaymentStatus" => hasText step.input "payment_id"
      | _ => true
  | "session" =>
      match step.action with
      | "ReconstructSession" =>
          hasText step.input "session_id" && hasText step.input "tenant_id"
      | _ => true
  | _ => true

def asserted (step : SagaStep StepMap) : Asserted where
  service := step.service
  action := step.action
  input := step.input

variable {State : Type} (clients : Clients State) (state : State)

theorem executeInitiatePayment_eq_panic_iff (input : Option StepMap) :
    (clients.executeInitiatePayment input state).1 = .error .panic ↔
      hasRequest input = false := by
  rw [fst_executeInitiatePayment]
  apply (panics_initiateRequest input).bind_eq_panic_iff_of_ne
  intro request
  exact passOn_ne_panic _ _ _

theorem executeGetPaymentStatus_eq_panic_iff (input : Option StepMap) :
    clients.executeGetPaymentStatus input state = .error .panic ↔
      hasText input "payment_id" = false := by
  apply (panics_textOf input "payment_id").bind_eq_panic_iff_of_ne
  intro paymentId
  exact passOn_ne_panic _ _ _

theorem executeReconstructSession_eq_panic_iff (input : Option StepMap) :
    clients.executeReconstructSession input = .error .panic ↔
      (hasText input "session_id" && hasText input "tenant_id") = false := by
  apply (panics_textOf input "session_id").bind_eq_panic_iff
  intro sessionId
  apply (panics_textOf input "tenant_id").bind_eq_panic_iff_of_ne
  intro tenantId
  exact passOn_ne_panic _ _ _

/-- A relation between the assertions of a step and its result, action by
action. -/
theorem execute_rel (relation : Bool → Except StepFailure StepMap → Prop)
    (step : SagaStep StepMap)
    (hinitiate : relation (hasRequest step.input)
      (clients.executeInitiatePayment step.input state).1)
    (hstatus : relation (hasText step.input "payment_id")
      (clients.executeGetPaymentStatus step.input state))
    (hreconstruct : relation
      (hasText step.input "session_id" && hasText step.input "tenant_id")
      (clients.executeReconstructSession step.input))
    (hother : relation true (.ok success)) :
    relation (asserted step).wellTyped (clients.execute step state).1 := by
  unfold Clients.execute Asserted.wellTyped Clients.executePaymentStep
    Clients.executeSessionStep
  dsimp only [asserted]
  by_cases hpayment : step.service = "payment"
  · simp only [hpayment]
    by_cases haction : step.action = "InitiatePayment"
    · simp only [haction]
      exact hinitiate
    · by_cases haction : step.action = "GetPaymentStatus"
      · simp only [haction]
        exact hstatus
      · simpa using hother
  · by_cases hsession : step.service = "session"
    · simp only [hsession]
      by_cases haction : step.action = "ReconstructSession"
      · simp only [haction]
        exact hreconstruct
      · simpa using hother
    · simpa using hother

/-- A step panics exactly if its input lacks an asserted field, whatever the
services answer. -/
theorem execute_eq_panic_iff (step : SagaStep StepMap) :
    (clients.execute step state).1 = .error .panic ↔
      (asserted step).wellTyped = false := by
  apply execute_rel clients state
    (fun typed result => result = .error .panic ↔ typed = false) step
    (executeInitiatePayment_eq_panic_iff clients state step.input)
    (executeGetPaymentStatus_eq_panic_iff clients state step.input)
    (executeReconstructSession_eq_panic_iff clients step.input)
  simp

end Assertions

end UssdKernel.SagaServer
